import Mathlib.Data.List.TakeWhile
import Mathlib.Tactic.IntervalCases
import ControlForge.Foundation.Json

/-!
# The reader inverts the printer

`loads_dumps` states the round trip for values whose objects have distinct
keys, for both escaping modes.  Its consequence `dumps_injective` is what
makes a digest of the printed text a digest of the value.
-/

namespace ControlForge

namespace Json

/-! ## Well-formed values -/

mutual

/-- Every object has distinct keys, as a dictionary has. -/
def WellFormed : Json → Prop
  | .arr items => WellFormedItems items
  | .obj members => (members.map Prod.fst).Nodup ∧ WellFormedMembers members
  | _ => True

def WellFormedItems : List Json → Prop
  | [] => True
  | item :: items => item.WellFormed ∧ WellFormedItems items

def WellFormedMembers : List (String × Json) → Prop
  | [] => True
  | (_, value) :: members => value.WellFormed ∧ WellFormedMembers members

end

/-! ## Dictionaries -/

theorem assign_of_not_mem {key : String} {value : Json}
    {members : List (String × Json)}
    (absent : key ∉ members.map Prod.fst) :
    assign key value members = members ++ [(key, value)] := by
  induction members with
  | nil => rfl
  | cons member members induction =>
      obtain ⟨other, old⟩ := member
      simp only [List.map_cons, List.mem_cons, not_or] at absent
      obtain ⟨different, absent⟩ := absent
      simp [assign, Ne.symm different, induction absent]

private theorem foldl_assign
    (members built : List (String × Json))
    (distinct : ((built ++ members).map Prod.fst).Nodup) :
    members.foldl (fun built member => assign member.1 member.2 built) built =
      built ++ members := by
  induction members generalizing built with
  | nil => simp
  | cons member members induction =>
      have absent : member.1 ∉ built.map Prod.fst := by
        simp only [List.map_append, List.map_cons, List.nodup_append,
          List.mem_cons] at distinct
        intro present
        exact distinct.2.2 _ present _ (Or.inl rfl) rfl
      rw [List.foldl_cons, assign_of_not_mem absent, induction]
      · simp
      · simpa using distinct

theorem dictOf_of_nodup {members : List (String × Json)}
    (distinct : (members.map Prod.fst).Nodup) : dictOf members = members := by
  simpa [dictOf] using foldl_assign members [] (by simpa using distinct)

/-! ## Escapes -/

theorem hexValue_hexDigit {digit : Nat} (small : digit < 16) :
    hexValue (hexDigit digit) = some digit := by
  revert digit
  decide

theorem parseUnit_hexDigits {unit : Nat} (small : unit < 0x10000)
    (rest : List Char) :
    parseUnit (hexDigit (unit / 4096 % 16) :: hexDigit (unit / 256 % 16) ::
      hexDigit (unit / 16 % 16) :: hexDigit (unit % 16) :: rest) =
      some (unit, rest) := by
  have split : 4096 * (unit / 4096 % 16) + 256 * (unit / 256 % 16) +
      16 * (unit / 16 % 16) + unit % 16 = unit := by omega
  simp [parseUnit, hexValue_hexDigit, Nat.mod_lt, split]

theorem not_surrogate (character : Char) :
    character.toNat < 0xD800 ∨
      (0xE000 ≤ character.toNat ∧ character.toNat < 0x110000) := by
  rcases character.valid with below | above
  · exact Or.inl below
  · refine Or.inr ⟨?_, above.2⟩
    have := above.1
    simp only [Char.toNat, UInt32.toNat] at *
    omega

theorem parseUnicode_unit {unit : Nat} (small : unit < 0x10000)
    (notHigh : isHighSurrogate unit = false)
    (notLow : isLowSurrogate unit = false) (rest : List Char) :
    parseUnicode ((unicodeEscape unit).drop 2 ++ rest) =
      some (Char.ofNat unit, rest) := by
  have read := parseUnit_hexDigits small rest
  simp only [parseUnicode, unicodeEscape, List.drop_succ_cons, List.drop_zero,
    List.cons_append, List.nil_append, read]
  simp [notHigh, notLow]

theorem parseUnicode_pair {high low : Nat}
    (highSmall : high < 0x10000) (lowSmall : low < 0x10000)
    (isHigh : isHighSurrogate high = true) (isLow : isLowSurrogate low = true)
    (rest : List Char) :
    parseUnicode ((unicodeEscape high ++ unicodeEscape low).drop 2 ++ rest) =
      some (Char.ofNat (0x10000 + (high - 0xD800) * 0x400 + (low - 0xDC00)),
        rest) := by
  have readHigh := parseUnit_hexDigits highSmall (unicodeEscape low ++ rest)
  have readLow := parseUnit_hexDigits lowSmall rest
  simp only [unicodeEscape, List.cons_append, List.nil_append] at readHigh
  simp only [parseUnicode, unicodeEscape, List.drop_succ_cons, List.drop_zero,
    List.cons_append, List.nil_append, readHigh]
  simp [isHigh, isLow, consume, readLow]

theorem parseUnicode_escapeCodePoint (character : Char) (rest : List Char) :
    parseUnicode ((escapeCodePoint character.toNat).drop 2 ++ rest) =
      some (character, rest) := by
  have valid := not_surrogate character
  generalize point : character.toNat = value at valid
  have restored : Char.ofNat value = character := by
    rw [← point, Char.ofNat_toNat]
  unfold escapeCodePoint
  split
  · rename_i basic
    rw [parseUnicode_unit basic, restored]
    · simp [isHighSurrogate]; omega
    · simp [isLowSurrogate]; omega
  · rename_i supplementary
    rw [parseUnicode_pair (by omega) (by omega)]
    · have joined : 0x10000 +
          (0xD800 + (value - 0x10000) / 0x400 - 0xD800) * 0x400 +
          (0xDC00 + (value - 0x10000) % 0x400 - 0xDC00) = value := by omega
      rw [joined, restored]
    · simp [isHighSurrogate]; omega
    · simp [isLowSurrogate]; omega

private theorem escapeCodePoint_eq (point : Nat) :
    escapeCodePoint point = '\\' :: 'u' :: (escapeCodePoint point).drop 2 := by
  unfold escapeCodePoint unicodeEscape
  split <;> rfl

theorem escapeChar_ne_nil (ascii : Bool) (character : Char) :
    0 < (escapeChar ascii character).length := by
  unfold escapeChar escapeCodePoint unicodeEscape
  repeat' split
  all_goals simp

/-- Reading back one escaped character. -/
theorem parseString_escapeChar (ascii : Bool) (character : Char)
    (fuel : Nat) (rest : List Char) :
    parseString (fuel + 1) (escapeChar ascii character ++ rest) =
      (parseString fuel rest).bind fun parsed =>
        some (character :: parsed.1, parsed.2) := by
  unfold escapeChar
  split
  · subst_vars; simp [parseString, parseEscape, shortEscape]
  split
  · subst_vars; simp [parseString, parseEscape, shortEscape]
  split
  · subst_vars; simp [parseString, parseEscape, shortEscape]
  split
  · subst_vars; simp [parseString, parseEscape, shortEscape]
  split
  · subst_vars; simp [parseString, parseEscape, shortEscape]
  split
  · rename_i backspace
    have restored : Char.ofNat 0x08 = character := by
      rw [← backspace, Char.ofNat_toNat]
    simp [parseString, parseEscape, shortEscape, ← restored]
  split
  · rename_i formFeed
    have restored : Char.ofNat 0x0C = character := by
      rw [← formFeed, Char.ofNat_toNat]
    simp [parseString, parseEscape, shortEscape, ← restored]
  split
  · rw [escapeCodePoint_eq]
    simp [parseString, parseEscape, parseUnicode_escapeCodePoint]
  · rename_i notQuote notBackslash _ _ _ _ _ printable
    have notControl : ¬ character.toNat < 0x20 := by
      intro control
      exact printable (by simp [needsUnicodeEscape, control])
    simp [parseString, notQuote, notBackslash, notControl]

theorem parseString_escapeChars (ascii : Bool) (text : List Char)
    (fuel : Nat) (enough : text.length < fuel) (rest : List Char) :
    parseString fuel (escapeChars ascii text ++ '"' :: rest) =
      some (text, rest) := by
  induction text generalizing fuel with
  | nil =>
      obtain ⟨fuel, rfl⟩ : ∃ more, fuel = more + 1 :=
        ⟨fuel - 1, by simp only [List.length_nil] at enough; omega⟩
      simp [escapeChars, parseString]
  | cons character text induction =>
      obtain ⟨fuel, rfl⟩ : ∃ more, fuel = more + 1 :=
        ⟨fuel - 1, by simp only [List.length_cons] at enough; omega⟩
      have later := induction fuel (by simpa using enough)
      simp only [escapeChars, List.flatMap_cons, List.append_assoc] at later ⊢
      rw [parseString_escapeChar, later]
      rfl

theorem length_le_escapeChars (ascii : Bool) (text : List Char) :
    text.length ≤ (escapeChars ascii text).length := by
  induction text with
  | nil => simp [escapeChars]
  | cons character text induction =>
      have := escapeChar_ne_nil ascii character
      simp only [escapeChars, List.flatMap_cons, List.length_append,
        List.length_cons] at induction ⊢
      omega

/-! ## Numbers -/

/-- The continuation of a number token does not extend it. -/
def Delimited (rest : List Char) : Prop :=
  ∀ character, rest.head? = some character → isNumberChar character = false

theorem delimited_nil : Delimited [] := by
  intro character head
  cases head

theorem takeWhile_append_delimited {run rest : List Char}
    (allNumber : ∀ character ∈ run, isNumberChar character = true)
    (delimited : Delimited rest) :
    (run ++ rest).takeWhile isNumberChar = run ∧
      (run ++ rest).dropWhile isNumberChar = rest := by
  induction run with
  | nil =>
      cases rest with
      | nil => exact ⟨rfl, rfl⟩
      | cons character rest =>
          have stop := delimited character rfl
          simp [stop]
  | cons character run induction =>
      have here := allNumber character (by simp)
      obtain ⟨taken, dropped⟩ := induction (by
        intro other member
        exact allNumber other (by simp [member]))
      simp [here, taken, dropped]

theorem toDigits_all_digit (value : Nat) :
    ∀ character ∈ Nat.toDigits 10 value, character.isDigit = true := by
  intro character member
  exact Nat.isDigit_of_mem_toDigits (by omega) (by omega) member

theorem toDigits_head_ne_zero {value : Nat} (positive : 0 < value) :
    (Nat.toDigits 10 value).head? ≠ some '0' := by
  induction value using Nat.strong_induction_on with
  | _ value induction =>
      by_cases small : value < 10
      · rw [Nat.toDigits_of_lt_base small]
        interval_cases value <;> decide
      · rw [Nat.toDigits_of_base_le (by omega) (by omega)]
        have shorter := induction (value / 10) (by omega) (by omega)
        have nonempty : Nat.toDigits 10 (value / 10) ≠ [] := Nat.toDigits_ne_nil
        cases digits : Nat.toDigits 10 (value / 10) with
        | nil => exact absurd digits nonempty
        | cons first others => simpa [digits] using shorter

theorem isNatText_toDigits (value : Nat) :
    isNatText (Nat.toDigits 10 value) = true := by
  have nonempty : Nat.toDigits 10 value ≠ [] := Nat.toDigits_ne_nil
  have digits : (Nat.toDigits 10 value).all Char.isDigit = true := by
    simpa using toDigits_all_digit value
  have leading : (Nat.toDigits 10 value == ['0'] ||
      (Nat.toDigits 10 value).head? != some '0') = true := by
    rcases Nat.eq_zero_or_pos value with zero | positive
    · subst zero
      rw [Nat.toDigits_zero]
      rfl
    · have different := toDigits_head_ne_zero positive
      simp [different]
  simp [isNatText, nonempty, digits, leading]

private theorem dropWhile_digits_nil {digits : List Char}
    (allDigits : ∀ character ∈ digits, character.isDigit = true) :
    digits.dropWhile Char.isDigit = [] :=
  List.dropWhile_eq_nil_iff.mpr allDigits

theorem isUnsignedFloat_digits {digits : List Char}
    (allDigits : ∀ character ∈ digits, character.isDigit = true) :
    isUnsignedFloat digits = false := by
  simp [isUnsignedFloat, dropWhile_digits_nil allDigits, isFloatSuffix]

private theorem digit_ne_minus {character : Char}
    (digit : character.isDigit = true) : character ≠ '-' := by
  rintro rfl
  exact absurd digit (by decide)

theorem isFiniteFloat_intText (value : Int) :
    isFiniteFloat (intText value) = false := by
  have digits := toDigits_all_digit value.natAbs
  unfold intText
  split
  · simpa [isFiniteFloat] using isUnsignedFloat_digits digits
  · have unsigned := isUnsignedFloat_digits digits
    cases shape : Nat.toDigits 10 value.natAbs with
    | nil => exact absurd shape Nat.toDigits_ne_nil
    | cons first others =>
        have notMinus : first ≠ '-' :=
          digit_ne_minus (digits first (by simp [shape]))
        rw [shape] at unsigned
        unfold isFiniteFloat
        split
        · rename_i matched
          simp only [List.cons.injEq] at matched
          exact absurd matched.1 notMinus
        · exact unsigned

theorem isIntText_intText (value : Int) : isIntText (intText value) = true := by
  have natural := isNatText_toDigits value.natAbs
  have digits := toDigits_all_digit value.natAbs
  unfold intText
  split
  · simpa [isIntText] using natural
  · cases shape : Nat.toDigits 10 value.natAbs with
    | nil => exact absurd shape Nat.toDigits_ne_nil
    | cons first others =>
        have notMinus : first ≠ '-' :=
          digit_ne_minus (digits first (by simp [shape]))
        rw [shape] at natural
        unfold isIntText
        split
        · rename_i matched
          simp only [List.cons.injEq] at matched
          exact absurd matched.1 notMinus
        · exact natural

theorem intValue_intText (value : Int) : intValue (intText value) = value := by
  have digits := toDigits_all_digit value.natAbs
  unfold intText
  split
  · simp only [intValue, Nat.ofDigitChars_ten_toDigits]
    omega
  · have restored : (Nat.ofDigitChars 10 (Nat.toDigits 10 value.natAbs) 0 : Int) =
        value := by
      rw [Nat.ofDigitChars_ten_toDigits]
      omega
    cases shape : Nat.toDigits 10 value.natAbs with
    | nil => exact absurd shape Nat.toDigits_ne_nil
    | cons first others =>
        have notMinus : first ≠ '-' :=
          digit_ne_minus (digits first (by simp [shape]))
        rw [shape] at restored
        unfold intValue
        split
        · rename_i matched
          simp only [List.cons.injEq] at matched
          exact absurd matched.1 notMinus
        · exact restored

theorem intText_all_number (value : Int) :
    ∀ character ∈ intText value, isNumberChar character = true := by
  have digits := toDigits_all_digit value.natAbs
  intro character member
  unfold intText at member
  split at member
  · rcases List.mem_cons.mp member with rfl | later
    · decide
    · simp [isNumberChar, digits character later]
  · simp [isNumberChar, digits character member]

theorem parseNumber_intText (value : Int) {rest : List Char}
    (delimited : Delimited rest) :
    parseNumber (intText value ++ rest) = some (.int value, rest) := by
  obtain ⟨taken, dropped⟩ :=
    takeWhile_append_delimited (intText_all_number value) delimited
  simp [parseNumber, taken, dropped, isFiniteFloat_intText, isIntText_intText,
    intValue_intText]

theorem parseNumber_finite {literal rest : List Char}
    (wellFormed : (isFiniteFloat literal && literal.all isNumberChar) = true)
    (delimited : Delimited rest) :
    parseNumber (literal ++ rest) =
      some (.float (.finite literal wellFormed), rest) := by
  have allNumber : ∀ character ∈ literal, isNumberChar character = true := by
    simp only [Bool.and_eq_true, List.all_eq_true] at wellFormed
    exact wellFormed.2
  obtain ⟨taken, dropped⟩ := takeWhile_append_delimited allNumber delimited
  simp only [parseNumber, taken, dropped, wellFormed, dite_true]

/-! ## Atoms -/

/-- A token that starts with a digit, or with a minus sign and a digit. -/
def NumberHead (text : List Char) : Prop :=
  (∃ digit rest, text = digit :: rest ∧ digit.isDigit = true) ∨
    ∃ digit rest, text = '-' :: digit :: rest ∧ digit.isDigit = true

theorem numberHead_intText (value : Int) : NumberHead (intText value) := by
  have digits := toDigits_all_digit value.natAbs
  cases shape : Nat.toDigits 10 value.natAbs with
  | nil => exact absurd shape Nat.toDigits_ne_nil
  | cons first others =>
      have digit := digits first (by simp [shape])
      unfold intText
      split
      · exact Or.inr ⟨first, others, by rw [shape], digit⟩
      · exact Or.inl ⟨first, others, shape, digit⟩

private theorem unsigned_head {text : List Char}
    (float : isUnsignedFloat text = true) :
    ∃ digit rest, text = digit :: rest ∧ digit.isDigit = true := by
  cases text with
  | nil => simp [isUnsignedFloat, isNatText] at float
  | cons first others =>
      refine ⟨first, others, rfl, ?_⟩
      by_contra notDigit
      simp [isUnsignedFloat, isNatText, notDigit] at float

theorem numberHead_finite {literal : List Char}
    (float : isFiniteFloat literal = true) : NumberHead literal := by
  unfold isFiniteFloat at float
  split at float
  · obtain ⟨digit, rest, rfl, isDigit⟩ := unsigned_head float
    exact Or.inr ⟨digit, rest, rfl, isDigit⟩
  · exact Or.inl (unsigned_head float)

private theorem digit_ne_letter {digit : Char} (letter : Char)
    (isDigit : digit.isDigit = true) (isLetter : letter.isDigit = false) :
    letter ≠ digit := by
  rintro rfl
  rw [isDigit] at isLetter
  cases isLetter

theorem parseAtom_numberHead {text : List Char} (head : NumberHead text)
    (rest : List Char) : parseAtom (text ++ rest) = parseNumber (text ++ rest) := by
  rcases head with ⟨digit, others, rfl, isDigit⟩ | ⟨digit, others, rfl, isDigit⟩
  · have n := digit_ne_letter 'n' isDigit (by decide)
    have t := digit_ne_letter 't' isDigit (by decide)
    have f := digit_ne_letter 'f' isDigit (by decide)
    have upperN := digit_ne_letter 'N' isDigit (by decide)
    have upperI := digit_ne_letter 'I' isDigit (by decide)
    have minus := digit_ne_letter '-' isDigit (by decide)
    simp [parseAtom, consume, n, t, f, upperN, upperI, minus]
  · have upperI := digit_ne_letter 'I' isDigit (by decide)
    simp [parseAtom, consume, upperI]

/-- A token that `parseValue` leaves to `parseAtom`. -/
def AtomHead (text : List Char) : Prop :=
  ∃ first rest, text = first :: rest ∧ isBlank first = false ∧
    first ≠ '"' ∧ first ≠ '[' ∧ first ≠ '{'

theorem NumberHead.atomHead {text : List Char} (head : NumberHead text) :
    AtomHead text := by
  rcases head with ⟨digit, others, rfl, isDigit⟩ | ⟨digit, others, rfl, isDigit⟩
  · refine ⟨digit, others, rfl, ?_, ?_, ?_, ?_⟩
    · have blank := digit_ne_letter ' ' isDigit (by decide)
      have tab := digit_ne_letter '\t' isDigit (by decide)
      have line := digit_ne_letter '\n' isDigit (by decide)
      have back := digit_ne_letter '\r' isDigit (by decide)
      simp [isBlank, blank.symm, tab.symm, line.symm, back.symm]
    · exact (digit_ne_letter _ isDigit (by decide)).symm
    · exact (digit_ne_letter _ isDigit (by decide)).symm
    · exact (digit_ne_letter _ isDigit (by decide)).symm
  · exact ⟨'-', digit :: others, rfl, by decide, by decide, by decide, by decide⟩

theorem parseValue_atomHead {text : List Char} (head : AtomHead text)
    (fuel : Nat) (rest : List Char) :
    parseValue (fuel + 1) (text ++ rest) = parseAtom (text ++ rest) := by
  obtain ⟨first, others, rfl, notBlank, notQuote, notBracket, notBrace⟩ := head
  have kept : skipBlanks (first :: (others ++ rest)) =
      first :: (others ++ rest) := by
    simp [skipBlanks, notBlank]
  rw [List.cons_append, parseValue, kept]
  split
  · rename_i shape
    exact absurd (List.cons.inj shape).1 notQuote
  · rename_i shape
    exact absurd (List.cons.inj shape).1 notBracket
  · rename_i shape
    exact absurd (List.cons.inj shape).1 notBrace
  · rfl

/-! ## Values -/

theorem delimited_comma (rest : List Char) : Delimited (',' :: rest) := by
  intro character head
  cases head
  decide

theorem delimited_bracket (rest : List Char) : Delimited (']' :: rest) := by
  intro character head
  cases head
  decide

theorem delimited_brace (rest : List Char) : Delimited ('}' :: rest) := by
  intro character head
  cases head
  decide

theorem delimited_dumpsItems (ascii : Bool) (items : List Json)
    (rest : List Char) : Delimited (dumpsItems ascii items ++ rest) := by
  cases items with
  | nil => exact delimited_bracket rest
  | cons item items => exact delimited_comma _

theorem delimited_dumpsMembers (ascii : Bool)
    (members : List (String × Json)) (rest : List Char) :
    Delimited (dumpsMembers ascii members ++ rest) := by
  cases members with
  | nil => exact delimited_brace rest
  | cons member members => exact delimited_comma _

theorem skipBlanks_bracket (rest : List Char) :
    skipBlanks ('[' :: rest) = '[' :: rest := rfl

theorem parseValue_quote (ascii : Bool) (text : String) (fuel : Nat)
    (enough : (quote ascii text).length ≤ fuel) (rest : List Char) :
    parseValue fuel (quote ascii text ++ rest) = some (.str text, rest) := by
  have bound := length_le_escapeChars ascii text.toList
  simp only [quote, List.length_cons, List.length_append,
    List.length_nil] at enough
  obtain ⟨fuel, rfl⟩ : ∃ more, fuel = more + 1 := ⟨fuel - 1, by omega⟩
  have read := parseString_escapeChars ascii text.toList fuel (by omega) rest
  simp [quote, parseValue, skipBlanks, isBlank, read, String.ofList_toList]

/-- The printed value starts with a character that is neither blank nor a
closing bracket or brace. -/
theorem dumpsChars_head (ascii : Bool) (value : Json) :
    ∃ first rest, dumpsChars ascii value = first :: rest ∧
      isBlank first = false ∧ first ≠ ']' ∧ first ≠ '}' := by
  have ofNumber : ∀ {text : List Char}, NumberHead text →
      ∃ first rest, text = first :: rest ∧ isBlank first = false ∧
        first ≠ ']' ∧ first ≠ '}' := by
    intro text head
    obtain ⟨first, rest, shape, notBlank, _⟩ := head.atomHead
    rcases head with ⟨digit, others, rfl, isDigit⟩ | ⟨digit, others, rfl, isDigit⟩
    · cases shape
      exact ⟨_, _, rfl, notBlank, (digit_ne_letter _ isDigit (by decide)).symm,
        (digit_ne_letter _ isDigit (by decide)).symm⟩
    · exact ⟨'-', _, rfl, by decide, by decide, by decide⟩
  cases value with
  | null => exact ⟨'n', _, rfl, by decide, by decide, by decide⟩
  | bool value =>
      cases value
      · exact ⟨'f', _, rfl, by decide, by decide, by decide⟩
      · exact ⟨'t', _, rfl, by decide, by decide, by decide⟩
  | int value => exact ofNumber (numberHead_intText value)
  | float value =>
      cases value with
      | finite literal wellFormed =>
          refine ofNumber (numberHead_finite ?_)
          simp only [Bool.and_eq_true] at wellFormed
          exact wellFormed.1
      | infinity => exact ⟨'I', _, rfl, by decide, by decide, by decide⟩
      | negInfinity => exact ⟨'-', _, rfl, by decide, by decide, by decide⟩
      | nan => exact ⟨'N', _, rfl, by decide, by decide, by decide⟩
  | str value => exact ⟨'"', _, rfl, by decide, by decide, by decide⟩
  | arr items =>
      cases items with
      | nil => exact ⟨'[', _, rfl, by decide, by decide, by decide⟩
      | cons item items =>
          exact ⟨'[', _, by rw [dumpsChars], by decide, by decide, by decide⟩
  | obj members =>
      cases members with
      | nil => exact ⟨'{', _, rfl, by decide, by decide, by decide⟩
      | cons member members =>
          exact ⟨'{', _, by rw [dumpsChars], by decide, by decide, by decide⟩

theorem parseAtom_floatText (value : FloatText) {rest : List Char}
    (delimited : Delimited rest) :
    parseAtom (floatText value ++ rest) = some (.float value, rest) := by
  cases value with
  | finite literal wellFormed =>
      have float : isFiniteFloat literal = true := by
        have both := wellFormed
        simp only [Bool.and_eq_true] at both
        exact both.1
      rw [floatText, parseAtom_numberHead (numberHead_finite float),
        parseNumber_finite wellFormed delimited]
  | infinity => simp [floatText, parseAtom, consume]
  | negInfinity => simp [floatText, parseAtom, consume]
  | nan => simp [floatText, parseAtom, consume]

theorem atomHead_floatText (value : FloatText) : AtomHead (floatText value) := by
  cases value with
  | finite literal wellFormed =>
      simp only [Bool.and_eq_true] at wellFormed
      exact (numberHead_finite wellFormed.1).atomHead
  | infinity => exact ⟨'I', _, rfl, by decide, by decide, by decide, by decide⟩
  | negInfinity => exact ⟨'-', _, rfl, by decide, by decide, by decide, by decide⟩
  | nan => exact ⟨'N', _, rfl, by decide, by decide, by decide, by decide⟩

/-- Reading a printed value back succeeds whatever follows it. -/
def ReadsBack (ascii : Bool) (value : Json) : Prop :=
  ∀ fuel, (dumpsChars ascii value).length ≤ fuel → ∀ rest, Delimited rest →
    parseValue fuel (dumpsChars ascii value ++ rest) = some (value, rest)

theorem parseMember_dumpsChars {ascii : Bool} {value : Json}
    (reads : ReadsBack ascii value) (key : String) (fuel : Nat)
    (enough : (quote ascii key).length +
      (dumpsChars ascii value).length < fuel) (rest : List Char)
    (delimited : Delimited rest) :
    parseMember fuel (quote ascii key ++
      ':' :: (dumpsChars ascii value ++ rest)) = some ((key, value), rest) := by
  have bound := length_le_escapeChars ascii key.toList
  simp only [quote, List.length_append, List.length_cons,
    List.length_nil] at enough
  obtain ⟨fuel, rfl⟩ : ∃ more, fuel = more + 1 := ⟨fuel - 1, by omega⟩
  have readKey := parseString_escapeChars ascii key.toList fuel (by omega)
    (':' :: (dumpsChars ascii value ++ rest))
  have readValue := reads fuel (by omega) rest delimited
  simp [quote, parseMember, skipBlanks, isBlank, readKey, readValue,
    String.ofList_toList]

mutual

theorem readsBack_of_wellFormed (ascii : Bool) (value : Json)
    (wellFormed : value.WellFormed) : ReadsBack ascii value := by
  intro fuel enough rest delimited
  obtain ⟨first, others, shape, -⟩ := dumpsChars_head ascii value
  obtain ⟨fuel, rfl⟩ : ∃ more, fuel = more + 1 :=
    ⟨fuel - 1, by simp only [shape, List.length_cons] at enough; omega⟩
  match value with
  | .null =>
      rw [dumpsChars, parseValue_atomHead
        ⟨'n', _, rfl, by decide, by decide, by decide, by decide⟩]
      simp [parseAtom, consume]
  | .bool true =>
      rw [dumpsChars, parseValue_atomHead
        ⟨'t', _, rfl, by decide, by decide, by decide, by decide⟩]
      simp [parseAtom, consume]
  | .bool false =>
      rw [dumpsChars, parseValue_atomHead
        ⟨'f', _, rfl, by decide, by decide, by decide, by decide⟩]
      simp [parseAtom, consume]
  | .int value =>
      have head := numberHead_intText value
      rw [dumpsChars, parseValue_atomHead head.atomHead,
        parseAtom_numberHead head, parseNumber_intText value delimited]
  | .float value =>
      rw [dumpsChars, parseValue_atomHead (atomHead_floatText value),
        parseAtom_floatText value delimited]
  | .str text =>
      simp only [dumpsChars] at enough ⊢
      exact parseValue_quote ascii text (fuel + 1) enough rest
  | .arr [] => simp [dumpsChars, parseValue, skipBlanks, isBlank]
  | .arr (item :: items) =>
      simp only [WellFormed, WellFormedItems] at wellFormed
      simp only [dumpsChars, List.length_cons, List.length_append] at enough
      have readItem := readsBack_of_wellFormed ascii item wellFormed.1 fuel
        (by omega) (dumpsItems ascii items ++ rest)
        (delimited_dumpsItems ascii items rest)
      have readItems := parseItems_dumpsItems ascii items wellFormed.2 fuel
        (by omega) rest
      obtain ⟨first, others, shape, notBlank, notClose, -⟩ :=
        dumpsChars_head ascii item
      rw [shape, List.cons_append] at readItem
      have kept : skipBlanks (first :: (others ++
          (dumpsItems ascii items ++ rest))) =
          first :: (others ++ (dumpsItems ascii items ++ rest)) := by
        simp [skipBlanks, notBlank]
      simp only [dumpsChars, List.cons_append, List.append_assoc, parseValue,
        shape]
      simp [skipBlanks_bracket, kept, notClose, readItem, readItems]
  | .obj [] => simp [dumpsChars, parseValue, skipBlanks, isBlank]
  | .obj ((key, value) :: members) =>
      simp only [WellFormed, WellFormedMembers] at wellFormed
      simp only [dumpsChars, List.length_cons, List.length_append] at enough
      have readMember := parseMember_dumpsChars
        (readsBack_of_wellFormed ascii value wellFormed.2.1) key fuel (by omega)
        (dumpsMembers ascii members ++ rest)
        (delimited_dumpsMembers ascii members rest)
      have readMembers := parseMembers_dumpsMembers ascii members wellFormed.2.2
        fuel (by omega) rest
      have distinct := dictOf_of_nodup wellFormed.1
      simp only [quote, List.cons_append, List.append_assoc,
        List.nil_append] at readMember
      simp only [dumpsChars, quote, List.cons_append, List.append_assoc,
        List.nil_append, parseValue]
      simp [skipBlanks, isBlank, readMember, readMembers, distinct]

theorem parseItems_dumpsItems (ascii : Bool) (items : List Json)
    (wellFormed : WellFormedItems items) (fuel : Nat)
    (enough : (dumpsItems ascii items).length ≤ fuel) (rest : List Char) :
    parseItems fuel (dumpsItems ascii items ++ rest) = some (items, rest) := by
  obtain ⟨fuel, rfl⟩ : ∃ more, fuel = more + 1 :=
    ⟨fuel - 1, by cases items <;> simp [dumpsItems] at enough <;> omega⟩
  match items with
  | [] => simp [dumpsItems, parseItems, skipBlanks, isBlank]
  | item :: items =>
      simp only [WellFormedItems] at wellFormed
      simp only [dumpsItems, List.length_cons, List.length_append] at enough
      have readItem := readsBack_of_wellFormed ascii item wellFormed.1 fuel
        (by omega) (dumpsItems ascii items ++ rest)
        (delimited_dumpsItems ascii items rest)
      have readItems := parseItems_dumpsItems ascii items wellFormed.2 fuel
        (by omega) rest
      simp [dumpsItems, parseItems, skipBlanks, isBlank, readItem, readItems]

theorem parseMembers_dumpsMembers (ascii : Bool)
    (members : List (String × Json)) (wellFormed : WellFormedMembers members)
    (fuel : Nat) (enough : (dumpsMembers ascii members).length ≤ fuel)
    (rest : List Char) :
    parseMembers fuel (dumpsMembers ascii members ++ rest) =
      some (members, rest) := by
  obtain ⟨fuel, rfl⟩ : ∃ more, fuel = more + 1 :=
    ⟨fuel - 1, by
      rcases members with _ | ⟨⟨key, value⟩, members⟩ <;>
        simp [dumpsMembers] at enough <;> omega⟩
  match members with
  | [] => simp [dumpsMembers, parseMembers, skipBlanks, isBlank]
  | (key, value) :: members =>
      simp only [WellFormedMembers] at wellFormed
      simp only [dumpsMembers, List.length_cons, List.length_append] at enough
      have readMember := parseMember_dumpsChars
        (readsBack_of_wellFormed ascii value wellFormed.1) key fuel (by omega)
        (dumpsMembers ascii members ++ rest)
        (delimited_dumpsMembers ascii members rest)
      have readMembers := parseMembers_dumpsMembers ascii members wellFormed.2
        fuel (by omega) rest
      simp [dumpsMembers, parseMembers, skipBlanks, isBlank, readMember,
        readMembers]

end

/-- Reading back a printed value gives the value. -/
theorem loads_dumps (ascii : Bool) {value : Json}
    (wellFormed : value.WellFormed) : loads (dumps ascii value) = some value := by
  have read := readsBack_of_wellFormed ascii value wellFormed
    ((dumpsChars ascii value).length + 1) (by omega) [] delimited_nil
  simp only [List.append_nil] at read
  simp [loads, dumps, read, skipBlanks]

/-- The printed text determines the value. -/
theorem dumps_injective (ascii : Bool) {left right : Json}
    (leftFormed : left.WellFormed) (rightFormed : right.WellFormed)
    (same : dumps ascii left = dumps ascii right) : left = right := by
  have read := loads_dumps ascii leftFormed
  rw [same, loads_dumps ascii rightFormed] at read
  exact (Option.some.inj read).symm

end Json

end ControlForge
