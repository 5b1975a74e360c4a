import Mathlib.Data.List.Sort
import Mathlib.Data.String.Basic

/-!
# JSON values, their compact text, and a reader for it

`dumps` prints a value the way a compact encoder does (no blank between
tokens), escaping every non-ASCII character when `ascii` is set.  `loads`
reads standard JSON together with the `NaN` and `Infinity` tokens.  Objects
are lists of members in insertion order, so sorting the keys is an operation
on values and not part of the printer.
-/

namespace ControlForge

namespace Json

/-! ## Numbers -/

def isNatText (digits : List Char) : Bool :=
  !digits.isEmpty && digits.all Char.isDigit &&
    (digits == ['0'] || digits.head? != some '0')

def isIntText : List Char → Bool
  | '-' :: digits => isNatText digits
  | digits => isNatText digits

/-- At least one digit and nothing else. -/
def isDigits (text : List Char) : Bool :=
  !text.isEmpty && text.all Char.isDigit

/-- An exponent part after its `e`: an optional sign and digits. -/
def isExponent : List Char → Bool
  | '+' :: digits => isDigits digits
  | '-' :: digits => isDigits digits
  | digits => isDigits digits

def isExponentMark (character : Char) : Bool :=
  character == 'e' || character == 'E'

/-- What may follow the integer digits of a floating-point literal: a
fraction, an exponent, or a fraction and an exponent. -/
def isFloatSuffix : List Char → Bool
  | '.' :: rest =>
      match rest.dropWhile Char.isDigit with
      | [] => isDigits rest
      | mark :: exponent =>
          isDigits (rest.takeWhile Char.isDigit) && isExponentMark mark &&
            isExponent exponent
  | mark :: exponent => isExponentMark mark && isExponent exponent
  | [] => false

def isUnsignedFloat (text : List Char) : Bool :=
  isNatText (text.takeWhile Char.isDigit) &&
    isFloatSuffix (text.dropWhile Char.isDigit)

def isFiniteFloat : List Char → Bool
  | '-' :: text => isUnsignedFloat text
  | text => isUnsignedFloat text

/-- The characters a number token is made of. -/
def isNumberChar (character : Char) : Bool :=
  character.isDigit || character == '-' || character == '+' ||
    character == '.' || character == 'e' || character == 'E'

end Json

/-- A floating-point number, identified with the literal printed for it. -/
inductive FloatText where
  | finite (literal : List Char)
      (wellFormed : (Json.isFiniteFloat literal && literal.all Json.isNumberChar) = true)
  | infinity
  | negInfinity
  | nan
deriving DecidableEq

inductive Json where
  | null
  | bool (value : Bool)
  | int (value : Int)
  | float (value : FloatText)
  | str (value : String)
  | arr (items : List Json)
  | obj (members : List (String × Json))

namespace Json

/-! ## The printer -/

def hexDigit (digit : Nat) : Char :=
  (['0', '1', '2', '3', '4', '5', '6', '7', '8', '9',
    'a', 'b', 'c', 'd', 'e', 'f'] : List Char).getD digit '0'

/-- `\uXXXX` for one 16-bit code unit. -/
def unicodeEscape (unit : Nat) : List Char :=
  ['\\', 'u', hexDigit (unit / 4096 % 16), hexDigit (unit / 256 % 16),
    hexDigit (unit / 16 % 16), hexDigit (unit % 16)]

/-- Supplementary characters are written as a surrogate pair. -/
def escapeCodePoint (point : Nat) : List Char :=
  if point < 0x10000 then
    unicodeEscape point
  else
    unicodeEscape (0xD800 + (point - 0x10000) / 0x400) ++
      unicodeEscape (0xDC00 + (point - 0x10000) % 0x400)

/-- Whether a character without a short escape is written as `\uXXXX`. -/
def needsUnicodeEscape (ascii : Bool) (character : Char) : Bool :=
  character.toNat < 0x20 || (ascii && 0x7F ≤ character.toNat)

def escapeChar (ascii : Bool) (character : Char) : List Char :=
  if character = '"' then ['\\', '"']
  else if character = '\\' then ['\\', '\\']
  else if character = '\n' then ['\\', 'n']
  else if character = '\r' then ['\\', 'r']
  else if character = '\t' then ['\\', 't']
  else if character.toNat = 0x08 then ['\\', 'b']
  else if character.toNat = 0x0C then ['\\', 'f']
  else if needsUnicodeEscape ascii character then
    escapeCodePoint character.toNat
  else [character]

def escapeChars (ascii : Bool) (text : List Char) : List Char :=
  text.flatMap (escapeChar ascii)

def quote (ascii : Bool) (text : String) : List Char :=
  '"' :: (escapeChars ascii text.toList ++ ['"'])

def intText (value : Int) : List Char :=
  if value < 0 then '-' :: Nat.toDigits 10 value.natAbs
  else Nat.toDigits 10 value.natAbs

def floatText : FloatText → List Char
  | .finite literal _ => literal
  | .infinity => ['I', 'n', 'f', 'i', 'n', 'i', 't', 'y']
  | .negInfinity => ['-', 'I', 'n', 'f', 'i', 'n', 'i', 't', 'y']
  | .nan => ['N', 'a', 'N']

mutual

def dumpsChars (ascii : Bool) : Json → List Char
  | .null => ['n', 'u', 'l', 'l']
  | .bool true => ['t', 'r', 'u', 'e']
  | .bool false => ['f', 'a', 'l', 's', 'e']
  | .int value => intText value
  | .float value => floatText value
  | .str value => quote ascii value
  | .arr [] => ['[', ']']
  | .arr (item :: items) =>
      '[' :: (dumpsChars ascii item ++ dumpsItems ascii items)
  | .obj [] => ['{', '}']
  | .obj ((key, value) :: members) =>
      '{' :: (quote ascii key ++
        ':' :: (dumpsChars ascii value ++ dumpsMembers ascii members))

/-- The items after the first one, and the closing bracket. -/
def dumpsItems (ascii : Bool) : List Json → List Char
  | [] => [']']
  | item :: items =>
      ',' :: (dumpsChars ascii item ++ dumpsItems ascii items)

/-- The members after the first one, and the closing brace. -/
def dumpsMembers (ascii : Bool) : List (String × Json) → List Char
  | [] => ['}']
  | (key, value) :: members =>
      ',' :: (quote ascii key ++
        ':' :: (dumpsChars ascii value ++ dumpsMembers ascii members))

end

def dumps (ascii : Bool) (value : Json) : String :=
  String.ofList (dumpsChars ascii value)

/-! ## Sorted keys -/

def keyLe (left right : String × Json) : Prop :=
  left.1 ≤ right.1

instance : DecidableRel keyLe := fun left right =>
  inferInstanceAs (Decidable (left.1 ≤ right.1))

mutual

/-- The same value with the members of every object in key order. -/
def sortKeys : Json → Json
  | .arr items => .arr (sortKeysItems items)
  | .obj members => .obj ((sortKeysMembers members).insertionSort keyLe)
  | .null => .null
  | .bool value => .bool value
  | .int value => .int value
  | .float value => .float value
  | .str value => .str value

def sortKeysItems : List Json → List Json
  | [] => []
  | item :: items => sortKeys item :: sortKeysItems items

def sortKeysMembers : List (String × Json) → List (String × Json)
  | [] => []
  | (key, value) :: members =>
      (key, sortKeys value) :: sortKeysMembers members

end

/-! ## The reader -/

def isBlank (character : Char) : Bool :=
  character == ' ' || character == '\t' || character == '\n' ||
    character == '\r'

def skipBlanks (input : List Char) : List Char :=
  input.dropWhile isBlank

def consume : List Char → List Char → Option (List Char)
  | [], input => some input
  | _ :: _, [] => none
  | expected :: more, character :: input =>
      if expected = character then consume more input else none

def hexValue (character : Char) : Option Nat :=
  if '0' ≤ character ∧ character ≤ '9' then some (character.toNat - 48)
  else if 'a' ≤ character ∧ character ≤ 'f' then some (character.toNat - 87)
  else if 'A' ≤ character ∧ character ≤ 'F' then some (character.toNat - 55)
  else none

/-- Four hexadecimal digits. -/
def parseUnit : List Char → Option (Nat × List Char)
  | first :: second :: third :: fourth :: rest => do
      let a ← hexValue first
      let b ← hexValue second
      let c ← hexValue third
      let d ← hexValue fourth
      some (4096 * a + 256 * b + 16 * c + d, rest)
  | _ => none

def isHighSurrogate (unit : Nat) : Bool :=
  0xD800 ≤ unit && unit < 0xDC00

def isLowSurrogate (unit : Nat) : Bool :=
  0xDC00 ≤ unit && unit < 0xE000

/-- The character a `\u` escape names.  A character is a Unicode scalar value,
so an unpaired surrogate is refused. -/
def parseUnicode (input : List Char) : Option (Char × List Char) := do
  let (unit, rest) ← parseUnit input
  if isHighSurrogate unit then
    let rest ← consume ['\\', 'u'] rest
    let (low, rest) ← parseUnit rest
    if isLowSurrogate low then
      some (Char.ofNat
        (0x10000 + (unit - 0xD800) * 0x400 + (low - 0xDC00)), rest)
    else none
  else if isLowSurrogate unit then none
  else some (Char.ofNat unit, rest)

def shortEscape (character : Char) : Option Char :=
  if character = '"' then some '"'
  else if character = '\\' then some '\\'
  else if character = '/' then some '/'
  else if character = 'b' then some (Char.ofNat 0x08)
  else if character = 'f' then some (Char.ofNat 0x0C)
  else if character = 'n' then some '\n'
  else if character = 'r' then some '\r'
  else if character = 't' then some '\t'
  else none

/-- The escape after a backslash. -/
def parseEscape : List Char → Option (Char × List Char)
  | [] => none
  | character :: rest =>
      if character = 'u' then parseUnicode rest
      else (shortEscape character).map fun value => (value, rest)

/-- A string after its opening quote. -/
def parseString : Nat → List Char → Option (List Char × List Char)
  | 0, _ => none
  | _ + 1, [] => none
  | fuel + 1, character :: rest =>
      if character = '"' then some ([], rest)
      else if character = '\\' then do
        let (value, rest) ← parseEscape rest
        let (values, rest) ← parseString fuel rest
        some (value :: values, rest)
      else if character.toNat < 0x20 then none
      else do
        let (values, rest) ← parseString fuel rest
        some (character :: values, rest)

def intValue : List Char → Int
  | '-' :: digits => -(Nat.ofDigitChars 10 digits 0 : Int)
  | digits => Nat.ofDigitChars 10 digits 0

/-- A number token: the longest run of number characters. -/
def parseNumber (input : List Char) : Option (Json × List Char) :=
  let run := input.takeWhile isNumberChar
  let rest := input.dropWhile isNumberChar
  if wellFormed : (isFiniteFloat run && run.all isNumberChar) = true then
    some (.float (.finite run wellFormed), rest)
  else if isIntText run then some (.int (intValue run), rest)
  else none

def parseAtom (input : List Char) : Option (Json × List Char) :=
  match consume ['n', 'u', 'l', 'l'] input with
  | some rest => some (.null, rest)
  | none =>
  match consume ['t', 'r', 'u', 'e'] input with
  | some rest => some (.bool true, rest)
  | none =>
  match consume ['f', 'a', 'l', 's', 'e'] input with
  | some rest => some (.bool false, rest)
  | none =>
  match consume ['N', 'a', 'N'] input with
  | some rest => some (.float .nan, rest)
  | none =>
  match consume ['I', 'n', 'f', 'i', 'n', 'i', 't', 'y'] input with
  | some rest => some (.float .infinity, rest)
  | none =>
  match consume ['-', 'I', 'n', 'f', 'i', 'n', 'i', 't', 'y'] input with
  | some rest => some (.float .negInfinity, rest)
  | none => parseNumber input

/-- Assigning a key keeps its first position and its last value. -/
def assign (key : String) (value : Json) :
    List (String × Json) → List (String × Json)
  | [] => [(key, value)]
  | (other, old) :: members =>
      if other = key then (key, value) :: members
      else (other, old) :: assign key value members

def dictOf (members : List (String × Json)) : List (String × Json) :=
  members.foldl (fun built member => assign member.1 member.2 built) []

mutual

def parseValue : Nat → List Char → Option (Json × List Char)
  | 0, _ => none
  | fuel + 1, input =>
      match skipBlanks input with
      | '"' :: rest => do
          let (text, rest) ← parseString fuel rest
          some (.str (String.ofList text), rest)
      | '[' :: rest =>
          match skipBlanks rest with
          | ']' :: rest => some (.arr [], rest)
          | rest => do
              let (item, rest) ← parseValue fuel rest
              let (items, rest) ← parseItems fuel rest
              some (.arr (item :: items), rest)
      | '{' :: rest =>
          match skipBlanks rest with
          | '}' :: rest => some (.obj [], rest)
          | rest => do
              let (member, rest) ← parseMember fuel rest
              let (members, rest) ← parseMembers fuel rest
              some (.obj (dictOf (member :: members)), rest)
      | rest => parseAtom rest

/-- What follows an item of an array. -/
def parseItems : Nat → List Char → Option (List Json × List Char)
  | 0, _ => none
  | fuel + 1, input =>
      match skipBlanks input with
      | ']' :: rest => some ([], rest)
      | ',' :: rest => do
          let (item, rest) ← parseValue fuel rest
          let (items, rest) ← parseItems fuel rest
          some (item :: items, rest)
      | _ => none

/-- A key, a colon and a value. -/
def parseMember : Nat → List Char → Option ((String × Json) × List Char)
  | 0, _ => none
  | fuel + 1, input =>
      match skipBlanks input with
      | '"' :: rest => do
          let (key, rest) ← parseString fuel rest
          match skipBlanks rest with
          | ':' :: rest => do
              let (value, rest) ← parseValue fuel rest
              some ((String.ofList key, value), rest)
          | _ => none
      | _ => none

/-- What follows a member of an object. -/
def parseMembers :
    Nat → List Char → Option (List (String × Json) × List Char)
  | 0, _ => none
  | fuel + 1, input =>
      match skipBlanks input with
      | '}' :: rest => some ([], rest)
      | ',' :: rest => do
          let (member, rest) ← parseMember fuel rest
          let (members, rest) ← parseMembers fuel rest
          some (member :: members, rest)
      | _ => none

end

/-- Read one JSON document. -/
def loads (text : String) : Option Json :=
  match parseValue (text.toList.length + 1) text.toList with
  | some (value, rest) => if skipBlanks rest = [] then some value else none
  | none => none

end Json

end ControlForge
