import Mathlib.Data.Nat.Digits.Defs

/-!
# CIDR matching

The addresses and networks of a `cidr` test are read by hand-written parsers
and compared under a mask.  The parsers accept the text forms below, with their
values, and the comparison is one of the leading bits.
-/

namespace ControlForge

namespace Cloud

namespace Cidr

/-- A string: its UTF-16 code units. -/
abbrev JsString := List UInt16

/-- What the built-in functions throw. -/
inductive Thrown where
  | rangeError (message : String)
  | syntaxError (message : String)

def dot : UInt16 := 46

def slash : UInt16 := 47

def colon : UInt16 := 58

/-! ## Built-in functions -/

/-- `\d`. -/
def isDigit (unit : UInt16) : Bool :=
  48 ≤ unit.toNat && unit.toNat ≤ 57

/-- `[0-9a-f]` in a test that ignores case. -/
def isHexDigit (unit : UInt16) : Bool :=
  isDigit unit || (65 ≤ unit.toNat && unit.toNat ≤ 70) ||
    (97 ≤ unit.toNat && unit.toNat ≤ 102)

def digitValue (unit : UInt16) : Nat :=
  if unit.toNat ≤ 57 then unit.toNat - 48
  else if unit.toNat ≤ 70 then unit.toNat - 55
  else unit.toNat - 87

/-- The number with these digits, the most significant one first. -/
def positional (base : Nat) (digits : List Nat) : Nat :=
  Nat.ofDigits base digits.reverse

/-- The number a text of digits stands for.  `Number` rounds it from 2^53 on
only, where no prefix length is. -/
def numberOf (base : Nat) (text : JsString) : Nat :=
  positional base (text.map digitValue)

/-- `split` by a separator of two equal code units. -/
def splitPair (unit : UInt16) : JsString → List JsString
  | [] => [[]]
  | [last] => [[last]]
  | first :: second :: rest =>
      if first = unit ∧ second = unit then [] :: splitPair unit rest
      else (splitPair unit (second :: rest)).modifyHead (first :: ·)

/-- `Array(length).fill(value)`. -/
def filledArray (length : Int) (value : JsString) :
    Except Thrown (List JsString) :=
  if length < 0 then .error (.rangeError "Invalid array length")
  else .ok (List.replicate length.toNat value)

/-- `BigInt` of a text after `0x`. -/
def hexBigInt (text : JsString) : Except Thrown Nat :=
  if text ≠ [] ∧ text.all isHexDigit then .ok (numberOf 16 text)
  else .error (.syntaxError "Cannot convert to a BigInt")

/-! ## Parsers -/

/-- The test `^\d{1,3}$`. -/
def isDecimalGroup (part : JsString) : Bool :=
  1 ≤ part.length && part.length ≤ 3 && part.all isDigit

/-- The loop over the parts of an IPv4 address. -/
def octets : List JsString → Nat → Option Nat
  | [], result => some result
  | part :: parts, result =>
      if isDecimalGroup part then
        let octet := numberOf 10 part
        if 255 < octet then none else octets parts (result <<< 8 ||| octet)
      else none

/-- `parseIpv4`. -/
def parseIpv4 (value : JsString) : Option Nat :=
  let parts := value.splitOn dot
  if parts.length ≠ 4 then none else octets parts 0

/-- The test `^[0-9a-f]{1,4}$`. -/
def isHexGroup (group : JsString) : Bool :=
  1 ≤ group.length && group.length ≤ 4 && group.all isHexDigit

/-- The loop over the groups of an IPv6 address. -/
def hextets : List JsString → Nat → Except Thrown (Option Nat)
  | [], result => .ok (some result)
  | group :: groups, result =>
      if isHexGroup group then
        match hexBigInt group with
        | .ok hextet => hextets groups (result <<< 16 ||| hextet)
        | .error thrown => .error thrown
      else .ok none

/-- The groups of one side of `::`. -/
def groupsOf (side : JsString) : List JsString :=
  if side = [] then [] else side.splitOn colon

/-- `parseIpv6`. -/
def parseIpv6 (value : JsString) : Except Thrown (Option Nat) :=
  let sides := splitPair colon value
  if ¬ (value ≠ [] ∧ value.all fun unit => isHexDigit unit || unit = colon) ∨
      2 < sides.length then .ok none
  else
    let left := groupsOf (sides.headD [])
    let right := if sides.length = 2 then groupsOf (sides.getD 1 []) else []
    if sides.length = 1 ∧ left.length ≠ 8 then .ok none
    else
      let missing : Int := 8 - left.length - right.length
      if missing < (if sides.length = 2 then 1 else 0) then .ok none
      else
        match filledArray missing [48] with
        | .error thrown => .error thrown
        | .ok zeros =>
            let groups := left ++ zeros ++ right
            if groups.length ≠ 8 then .ok none else hextets groups 0

/-! ## Matching -/

/-- The mask of a prefix length. -/
def maskOf (bits prefixLength : Nat) : Nat :=
  let hostBits := bits - prefixLength
  if prefixLength = 0 then 0
  else ((1 <<< bits) - 1) ^^^ ((1 <<< hostBits) - 1)

/-- The end of `cidrMatches`, on the parsed addresses. -/
def sameNetwork (bits prefixLength : Nat) : Option Nat → Option Nat → Bool
  | some parsedAddress, some parsedNetwork =>
      if bits < prefixLength then false
      else
        parsedAddress &&& maskOf bits prefixLength =
          parsedNetwork &&& maskOf bits prefixLength
  | _, _ => false

/-- `cidrMatches`. -/
def cidrMatches (address network : JsString) : Except Thrown Bool :=
  match network.splitOn slash with
  | [networkAddress, prefixText] =>
      if networkAddress = [] ∨ prefixText = [] ∨ ¬ prefixText.all isDigit then
        .ok false
      else
        let ipv4Address := parseIpv4 address
        let ipv4Network := parseIpv4 networkAddress
        if ipv4Address.isSome ∧ ipv4Network.isSome then
          .ok (sameNetwork 32 (numberOf 10 prefixText) ipv4Address ipv4Network)
        else
          match parseIpv6 address, parseIpv6 networkAddress with
          | .ok parsedAddress, .ok parsedNetwork =>
              .ok (sameNetwork 128 (numberOf 10 prefixText) parsedAddress
                parsedNetwork)
          | .error thrown, _ => .error thrown
          | _, .error thrown => .error thrown
  | _ => .ok false

/-! ## Text forms -/

/-- One to three digits of a value of at most 255. -/
structure IsOctet (group : JsString) : Prop where
  length : 1 ≤ group.length ∧ group.length ≤ 3
  digits : ∀ unit ∈ group, isDigit unit = true
  value : numberOf 10 group ≤ 255

/-- One to four hexadecimal digits. -/
structure IsHextet (group : JsString) : Prop where
  length : 1 ≤ group.length ∧ group.length ≤ 4
  digits : ∀ unit ∈ group, isHexDigit unit = true

/-- Groups with one separator between them. -/
def joined (separator : UInt16) (groups : List JsString) : JsString :=
  [separator].intercalate groups

/-- A text form of an IPv4 address, and its value. -/
def IsIpv4 (text : JsString) (value : Nat) : Prop :=
  ∃ groups, groups.length = 4 ∧ (∀ group ∈ groups, IsOctet group) ∧
    text = joined dot groups ∧
    value = positional 256 (groups.map (numberOf 10))

/-- The form of eight groups. -/
def IsFullIpv6 (text : JsString) (value : Nat) : Prop :=
  ∃ groups, groups.length = 8 ∧ (∀ group ∈ groups, IsHextet group) ∧
    text = joined colon groups ∧
    value = positional 65536 (groups.map (numberOf 16))

/-- The form with `::`, which stands for one group of zeros or more. -/
def IsCompressedIpv6 (text : JsString) (value : Nat) : Prop :=
  ∃ left right, left.length + right.length ≤ 7 ∧
    (∀ group ∈ left ++ right, IsHextet group) ∧
    text = joined colon left ++ colon :: colon :: joined colon right ∧
    value = positional 65536 (left.map (numberOf 16) ++
      List.replicate (8 - left.length - right.length) 0 ++
      right.map (numberOf 16))

/-- A text form of an IPv6 address, and its value. -/
def IsIpv6 (text : JsString) (value : Nat) : Prop :=
  IsFullIpv6 text value ∨ IsCompressedIpv6 text value

/-- Two values agree in their first bits. -/
def SameBits (bits prefixLength address network : Nat) : Prop :=
  prefixLength ≤ bits ∧
    address / 2 ^ (bits - prefixLength) = network / 2 ^ (bits - prefixLength)

/-- The network names a prefix of its own address, and this address has it. -/
def Contains (network address : JsString) : Prop :=
  ∃ networkAddress prefixText,
    network = networkAddress ++ slash :: prefixText ∧ prefixText ≠ [] ∧
    (∀ unit ∈ prefixText, isDigit unit = true) ∧
    ((∃ inner outer, IsIpv4 address inner ∧ IsIpv4 networkAddress outer ∧
        SameBits 32 (numberOf 10 prefixText) inner outer) ∨
      ∃ inner outer, IsIpv6 address inner ∧ IsIpv6 networkAddress outer ∧
        SameBits 128 (numberOf 10 prefixText) inner outer)

/-! ## Values -/

theorem positional_cons (base digit : Nat) (digits : List Nat) :
    positional base (digit :: digits) =
      digit * base ^ digits.length + positional base digits := by
  rw [positional, List.reverse_cons, Nat.ofDigits_append, List.length_reverse,
    Nat.ofDigits_singleton, positional]
  ring

theorem positional_lt {base : Nat} {digits : List Nat} (isBase : 1 < base)
    (small : ∀ digit ∈ digits, digit < base) :
    positional base digits < base ^ digits.length := by
  have bound := Nat.ofDigits_lt_base_pow_length isBase
    (fun digit (member : digit ∈ digits.reverse) =>
      small digit (List.mem_reverse.mp member))
  rwa [List.length_reverse] at bound

theorem shift_or {result digit width : Nat} (small : digit < 2 ^ width) :
    result <<< width ||| digit = result * 2 ^ width + digit := by
  rw [← Nat.shiftLeft_add_eq_or_of_lt small, Nat.shiftLeft_eq]

theorem isDigit_iff {unit : UInt16} :
    isDigit unit = true ↔ 48 ≤ unit.toNat ∧ unit.toNat ≤ 57 := by
  simp [isDigit]

theorem isHexDigit_iff {unit : UInt16} :
    isHexDigit unit = true ↔ 48 ≤ unit.toNat ∧ unit.toNat ≤ 57 ∨
      65 ≤ unit.toNat ∧ unit.toNat ≤ 70 ∨
      97 ≤ unit.toNat ∧ unit.toNat ≤ 102 := by
  simp [isHexDigit, isDigit, or_assoc]

theorem digitValue_lt {unit : UInt16} (isHex : isHexDigit unit = true) :
    digitValue unit < 16 := by
  have range := isHexDigit_iff.mp isHex
  unfold digitValue
  split_ifs <;> omega

theorem IsHextet.value_lt {group : JsString} (isHextet : IsHextet group) :
    numberOf 16 group < 65536 := by
  have bound : numberOf 16 group < 16 ^ (group.map digitValue).length := by
    apply positional_lt (by decide)
    intro digit member
    obtain ⟨unit, isUnit, rfl⟩ := List.mem_map.mp member
    exact digitValue_lt (isHextet.digits unit isUnit)
  rw [List.length_map] at bound
  have most : 16 ^ group.length ≤ 16 ^ 4 :=
    Nat.pow_le_pow_right (by decide) isHextet.length.2
  omega

theorem isHexGroup_iff {group : JsString} :
    isHexGroup group = true ↔ IsHextet group := by
  simp only [isHexGroup, Bool.and_eq_true, decide_eq_true_eq, List.all_eq_true]
  constructor
  · rintro ⟨length, digits⟩
    exact ⟨length, digits⟩
  · rintro ⟨length, digits⟩
    exact ⟨length, digits⟩

/-! ## Parts and groups -/

theorem octets_eq_some {parts : List JsString} {result value : Nat} :
    octets parts result = some value ↔
      (∀ part ∈ parts, IsOctet part) ∧
        value = result * 256 ^ parts.length +
          positional 256 (parts.map (numberOf 10)) := by
  induction parts generalizing result with
  | nil => simp [octets, positional, eq_comm]
  | cons part parts induction =>
      by_cases isOctet : IsOctet part
      · have isGroup : isDecimalGroup part = true := by
          simp only [isDecimalGroup, Bool.and_eq_true, decide_eq_true_eq,
            List.all_eq_true]
          exact ⟨isOctet.length, isOctet.digits⟩
        have small : numberOf 10 part < 2 ^ 8 := by
          have most := isOctet.value
          omega
        simp only [octets, isGroup, if_true]
        rw [if_neg (by have most := isOctet.value; omega), shift_or small,
          induction, List.map_cons, positional_cons, List.length_map,
          List.length_cons]
        simp only [List.forall_mem_cons, isOctet, true_and]
        refine and_congr_right fun _ => ?_
        rw [show (result * 2 ^ 8 + numberOf 10 part) * 256 ^ parts.length +
            positional 256 (parts.map (numberOf 10)) =
          result * 256 ^ (parts.length + 1) +
            (numberOf 10 part * 256 ^ parts.length +
              positional 256 (parts.map (numberOf 10))) by ring]
      · constructor
        · intro parsed
          simp only [octets] at parsed
          split_ifs at parsed with isGroup within
          simp only [isDecimalGroup, Bool.and_eq_true, decide_eq_true_eq,
            List.all_eq_true] at isGroup
          exact absurd ⟨isGroup.1, isGroup.2, by omega⟩ isOctet
        · rintro ⟨areOctets, _⟩
          exact absurd (areOctets part List.mem_cons_self) isOctet

theorem hexBigInt_hextet {group : JsString} (isHextet : IsHextet group) :
    hexBigInt group = .ok (numberOf 16 group) := by
  have nonempty : group ≠ [] := by
    rintro rfl
    have length := isHextet.length.1
    simp at length
  rw [hexBigInt, if_pos ⟨nonempty, List.all_eq_true.mpr isHextet.digits⟩]

theorem hextets_hextet {group : JsString} {groups : List JsString} {result : Nat}
    (isHextet : IsHextet group) :
    hextets (group :: groups) result =
      hextets groups (result * 65536 + numberOf 16 group) := by
  rw [hextets, if_pos (isHexGroup_iff.mpr isHextet), hexBigInt_hextet isHextet]
  have small : numberOf 16 group < 2 ^ 16 := isHextet.value_lt
  simp only [shift_or small]
  rfl

/-- The loop never throws: it tests a group before it reads it. -/
theorem hextets_eq {groups : List JsString} {result : Nat} :
    hextets groups result =
      .ok (if groups.all isHexGroup then
        some (result * 65536 ^ groups.length +
          positional 65536 (groups.map (numberOf 16)))
      else none) := by
  induction groups generalizing result with
  | nil => simp [hextets, positional]
  | cons group groups induction =>
      by_cases isGroup : isHexGroup group = true
      · rw [hextets_hextet (isHexGroup_iff.mp isGroup), induction,
          List.all_cons, isGroup, Bool.true_and, List.map_cons, positional_cons,
          List.length_map, List.length_cons]
        rw [show (result * 65536 + numberOf 16 group) * 65536 ^ groups.length +
            positional 65536 (groups.map (numberOf 16)) =
          result * 65536 ^ (groups.length + 1) +
            (numberOf 16 group * 65536 ^ groups.length +
              positional 65536 (groups.map (numberOf 16))) by ring]
      · rw [hextets, if_neg isGroup, List.all_cons]
        simp [isGroup]

theorem IsOctet.noDot {group : JsString} (isOctet : IsOctet group) :
    dot ∉ group := by
  intro member
  have digit := isDigit_iff.mp (isOctet.digits dot member)
  simp [dot] at digit

theorem IsHextet.noColon {group : JsString} (isHextet : IsHextet group) :
    colon ∉ group := by
  intro member
  have digit := isHexDigit_iff.mp (isHextet.digits colon member)
  simp [colon] at digit

theorem IsHextet.ne_nil {group : JsString} (isHextet : IsHextet group) :
    group ≠ [] := by
  rintro rfl
  have length := isHextet.length.1
  simp at length

theorem parseIpv4_iff {text : JsString} {value : Nat} :
    parseIpv4 text = some value ↔ IsIpv4 text value := by
  unfold parseIpv4
  simp only
  constructor
  · intro parsed
    split_ifs at parsed with four
    obtain ⟨areOctets, isValue⟩ := octets_eq_some.mp parsed
    refine ⟨text.splitOn dot, not_not.mp four, areOctets, ?_, ?_⟩
    · rw [joined, List.intercalate_splitOn]
    · rw [isValue]
      simp
  · rintro ⟨groups, four, areOctets, rfl, rfl⟩
    have nonempty : groups ≠ [] := by
      rintro rfl
      simp at four
    have split : (joined dot groups).splitOn dot = groups :=
      List.splitOn_intercalate dot
        (fun group member => (areOctets group member).noDot) nonempty
    rw [split, if_neg (not_not.mpr four), octets_eq_some]
    exact ⟨areOctets, by simp⟩

/-! ## Sides of a compressed address -/

theorem splitPair_ne_nil {unit : UInt16} (text : JsString) :
    splitPair unit text ≠ [] := by
  induction text using splitPair.induct unit with
  | case1 => simp [splitPair]
  | case2 last => simp [splitPair]
  | case3 first second rest pair induction => simp [splitPair, pair]
  | case4 first second rest single induction =>
      rw [splitPair, if_neg single]
      simpa [List.modifyHead_eq_nil_iff] using induction

theorem splitPair_cons {separator unit : UInt16} (differs : unit ≠ separator)
    (rest : JsString) :
    splitPair separator (unit :: rest) =
      (splitPair separator rest).modifyHead (unit :: ·) := by
  cases rest with
  | nil => rfl
  | cons second rest => simp [splitPair, differs]

theorem splitPair_single {separator first second : UInt16}
    (differs : second ≠ separator) (rest : JsString) :
    splitPair separator (first :: second :: rest) =
      (splitPair separator (second :: rest)).modifyHead (first :: ·) := by
  rw [splitPair, if_neg (by simp [differs])]

theorem splitPair_pair (separator : UInt16) (rest : JsString) :
    splitPair separator (separator :: separator :: rest) =
      [] :: splitPair separator rest := by
  rw [splitPair, if_pos ⟨rfl, rfl⟩]

theorem modifyHead_nil_append (lists : List JsString) :
    lists.modifyHead ([] ++ ·) = lists := by
  cases lists <;> rfl

theorem splitPair_append {separator : UInt16} {group : JsString}
    (clean : separator ∉ group) (rest : JsString) :
    splitPair separator (group ++ rest) =
      (splitPair separator rest).modifyHead (group ++ ·) := by
  induction group with
  | nil => exact (modifyHead_nil_append _).symm
  | cons unit group induction =>
      have differs : unit ≠ separator := by
        rintro rfl
        simp at clean
      have groupClean : separator ∉ group := by
        intro member
        exact clean (List.mem_cons_of_mem _ member)
      rw [List.cons_append, splitPair_cons differs, induction groupClean,
        List.modifyHead_modifyHead]
      rfl

theorem joined_cons (separator : UInt16) (first second : JsString)
    (groups : List JsString) :
    joined separator (first :: second :: groups) =
      first ++ separator :: joined separator (second :: groups) := by
  rw [joined, List.intercalate_cons_cons, List.append_assoc]
  rfl

/-- Groups between separators begin with no separator. -/
theorem joined_starts {group : JsString} (isHextet : IsHextet group)
    (groups : List JsString) :
    ∃ unit more, joined colon (group :: groups) = unit :: more ∧
      unit ≠ colon := by
  cases starts : group with
  | nil => exact absurd starts isHextet.ne_nil
  | cons unit others =>
      have differs : unit ≠ colon := by
        rintro rfl
        exact isHextet.noColon (starts ▸ List.mem_cons_self)
      cases groups with
      | nil => exact ⟨unit, others, by simp [joined], differs⟩
      | cons second groups =>
          rw [joined_cons]
          exact ⟨unit, _, rfl, differs⟩

/-- Groups that are not empty are not split at their separators. -/
theorem splitPair_joined {groups : List JsString}
    (areHextets : ∀ group ∈ groups, IsHextet group) (rest : JsString) :
    splitPair colon (joined colon groups ++ rest) =
      (splitPair colon rest).modifyHead (joined colon groups ++ ·) := by
  induction groups with
  | nil => exact (modifyHead_nil_append _).symm
  | cons first groups induction =>
      have isFirst := areHextets first List.mem_cons_self
      have remaining := induction fun group member =>
        areHextets group (List.mem_cons_of_mem _ member)
      cases groups with
      | nil => simpa [joined] using splitPair_append isFirst.noColon rest
      | cons second groups =>
          obtain ⟨unit, more, starts, differs⟩ :=
            joined_starts (areHextets second (by simp)) groups
          rw [joined_cons, List.append_assoc, splitPair_append isFirst.noColon,
            List.cons_append]
          rw [starts] at remaining ⊢
          rw [List.cons_append, splitPair_single differs, ← List.cons_append,
            remaining, List.modifyHead_modifyHead, List.modifyHead_modifyHead]
          congr 1
          funext text
          simp

/-- Putting the pairs back gives the text. -/
theorem intercalate_splitPair {separator : UInt16} (text : JsString) :
    [separator, separator].intercalate (splitPair separator text) = text := by
  induction text using splitPair.induct separator with
  | case1 => rfl
  | case2 last => rfl
  | case3 first second rest pair induction =>
      rw [splitPair, if_pos pair]
      cases parts : splitPair separator rest with
      | nil => exact absurd parts (splitPair_ne_nil rest)
      | cons part others =>
          rw [parts] at induction
          rw [List.intercalate_cons_cons, induction, pair.1, pair.2]
          rfl
  | case4 first second rest single induction =>
      rw [splitPair, if_neg single]
      cases parts : splitPair separator (second :: rest) with
      | nil => exact absurd parts (splitPair_ne_nil _)
      | cons part others =>
          rw [parts] at induction
          rw [List.modifyHead_cons]
          cases others with
          | nil =>
              rw [List.intercalate_singleton] at induction ⊢
              rw [induction]
          | cons next others =>
              rw [List.intercalate_cons_cons] at induction ⊢
              rw [← induction]
              rfl

theorem joined_groupsOf (side : JsString) : joined colon (groupsOf side) = side := by
  unfold groupsOf
  split_ifs with empty
  · rw [empty]
    rfl
  · exact List.intercalate_splitOn colon

theorem groupsOf_joined {groups : List JsString}
    (areHextets : ∀ group ∈ groups, IsHextet group) :
    groupsOf (joined colon groups) = groups := by
  cases groups with
  | nil => rfl
  | cons group groups =>
      obtain ⟨unit, more, starts, _⟩ :=
        joined_starts (areHextets group List.mem_cons_self) groups
      have nonempty : joined colon (group :: groups) ≠ [] := by
        rw [starts]
        exact List.cons_ne_nil _ _
      rw [groupsOf, if_neg nonempty]
      exact List.splitOn_intercalate colon
        (fun other member => (areHextets other member).noColon)
        (List.cons_ne_nil _ _)

theorem mem_joined {separator unit : UInt16} {groups : List JsString}
    (member : unit ∈ joined separator groups) :
    unit = separator ∨ ∃ group ∈ groups, unit ∈ group := by
  induction groups with
  | nil => simp [joined] at member
  | cons first groups induction =>
      cases groups with
      | nil => exact .inr ⟨first, List.mem_cons_self, by simpa [joined] using member⟩
      | cons second groups =>
          rw [joined_cons, List.mem_append, List.mem_cons] at member
          rcases member with inFirst | isSeparator | later
          · exact .inr ⟨first, List.mem_cons_self, inFirst⟩
          · exact .inl isSeparator
          · rcases induction later with isSeparator | ⟨group, isGroup, inGroup⟩
            · exact .inl isSeparator
            · exact .inr ⟨group, List.mem_cons_of_mem _ isGroup, inGroup⟩

/-- The characters of groups between colons. -/
theorem joined_units {groups : List JsString}
    (areHextets : ∀ group ∈ groups, IsHextet group) :
    ∀ unit ∈ joined colon groups, (isHexDigit unit || unit = colon) = true := by
  intro unit member
  rcases mem_joined member with rfl | ⟨group, isGroup, inGroup⟩
  · simp
  · simp [(areHextets group isGroup).digits unit inGroup]

/-! ## IPv6 addresses -/

/-- The characters that the first test of `parseIpv6` admits. -/
def AdmittedUnits (text : JsString) : Prop :=
  text ≠ [] ∧ (text.all fun unit => isHexDigit unit || unit = colon) = true

theorem admitted_passes {text : JsString} {sides : Nat}
    (admitted : AdmittedUnits text) (few : sides ≤ 2) :
    ¬ (¬ (text ≠ [] ∧ (text.all fun unit =>
      isHexDigit unit || unit = colon) = true) ∨ 2 < sides) := by
  rintro (refused | many)
  · exact refused admitted
  · omega

theorem parseIpv6_one {text side : JsString} (admitted : AdmittedUnits text)
    (sides : splitPair colon text = [side]) :
    parseIpv6 text =
      if (groupsOf side).length = 8 then hextets (groupsOf side) 0
      else .ok none := by
  unfold parseIpv6
  simp only [sides, List.length_singleton, List.headD_cons]
  rw [if_neg (admitted_passes admitted (by decide))]
  by_cases eight : (groupsOf side).length = 8
  · simp [eight, filledArray]
  · simp [eight]

theorem parseIpv6_two {text first second : JsString}
    (admitted : AdmittedUnits text)
    (sides : splitPair colon text = [first, second]) :
    parseIpv6 text =
      if (groupsOf first).length + (groupsOf second).length ≤ 7 then
        hextets (groupsOf first ++
          List.replicate (8 - (groupsOf first).length - (groupsOf second).length)
            [48] ++ groupsOf second) 0
      else .ok none := by
  unfold parseIpv6
  simp only [sides, List.length_cons, List.length_nil, List.headD_cons]
  rw [if_neg (admitted_passes admitted (by decide)), if_neg (by simp)]
  simp only [if_true, List.getD_cons_succ, List.getD_cons_zero]
  by_cases room : (groupsOf first).length + (groupsOf second).length ≤ 7
  · rw [if_pos room, if_neg (by omega), filledArray, if_neg (by omega)]
    have missing : ((8 : Int) - (groupsOf first).length -
        (groupsOf second).length).toNat =
        8 - (groupsOf first).length - (groupsOf second).length := by
      omega
    simp only [missing]
    rw [if_neg]
    simp only [List.length_append, List.length_replicate, not_not]
    omega
  · rw [if_neg room, if_pos (by omega)]

theorem parseIpv6_other {text : JsString}
    (refused : ¬ AdmittedUnits text ∨ 2 < (splitPair colon text).length) :
    parseIpv6 text = .ok none := by
  unfold parseIpv6
  simp only
  rw [if_pos (by simpa [AdmittedUnits] using refused)]

/-- The ways a text falls into sides. -/
theorem sides_cases (text : JsString) :
    2 < (splitPair colon text).length ∨
      splitPair colon text = [text] ∨
      ∃ first second, splitPair colon text = [first, second] ∧
        text = first ++ colon :: colon :: second := by
  have whole : [colon, colon].intercalate (splitPair colon text) = text :=
    intercalate_splitPair text
  match sides : splitPair colon text with
  | [] => exact absurd sides (splitPair_ne_nil text)
  | [side] =>
      rw [sides, List.intercalate_singleton] at whole
      exact .inr (.inl (by rw [whole]))
  | [first, second] =>
      rw [sides, List.intercalate_cons_cons, List.intercalate_singleton] at whole
      exact .inr (.inr ⟨first, second, rfl, by rw [← whole]; simp⟩)
  | _ :: _ :: _ :: _ => exact .inl (by simp)

theorem hextets_eq_some {groups : List JsString} {value : Nat} :
    hextets groups 0 = .ok (some value) ↔
      (∀ group ∈ groups, IsHextet group) ∧
        value = positional 65536 (groups.map (numberOf 16)) := by
  rw [hextets_eq]
  by_cases areGroups : groups.all isHexGroup = true
  · have areHextets : ∀ group ∈ groups, IsHextet group := by
      intro group member
      exact isHexGroup_iff.mp (List.all_eq_true.mp areGroups group member)
    simp only [areGroups, if_true, Except.ok.injEq, Option.some.injEq,
      Nat.zero_mul, Nat.zero_add]
    constructor
    · intro same
      exact ⟨areHextets, same.symm⟩
    · rintro ⟨_, same⟩
      exact same.symm
  · have notHextets : ¬ ∀ group ∈ groups, IsHextet group := by
      intro areHextets
      apply areGroups
      rw [List.all_eq_true]
      intro group member
      exact isHexGroup_iff.mpr (areHextets group member)
    simp [areGroups, notHextets]

theorem parseIpv6_returns (text : JsString) :
    ∃ result, parseIpv6 text = .ok result := by
  by_cases admitted : AdmittedUnits text
  · rcases sides_cases text with many | one | ⟨first, second, two, _⟩
    · exact ⟨none, parseIpv6_other (.inr many)⟩
    · rw [parseIpv6_one admitted one, hextets_eq]
      split_ifs <;> exact ⟨_, rfl⟩
    · rw [parseIpv6_two admitted two, hextets_eq]
      split_ifs <;> exact ⟨_, rfl⟩
  · exact ⟨none, parseIpv6_other (.inl admitted)⟩

theorem numberOf_zero : numberOf 16 [48] = 0 := by
  decide

theorem isHextet_zero : IsHextet [48] :=
  isHexGroup_iff.mp (by decide)

theorem admitted_of_units {text : JsString} (nonempty : text ≠ [])
    (units : ∀ unit ∈ text, (isHexDigit unit || unit = colon) = true) :
    AdmittedUnits text :=
  ⟨nonempty, List.all_eq_true.mpr units⟩

theorem parseIpv6_iff {text : JsString} {value : Nat} :
    parseIpv6 text = .ok (some value) ↔ IsIpv6 text value := by
  constructor
  · intro parsed
    by_cases admitted : AdmittedUnits text
    · rcases sides_cases text with many | one | ⟨first, second, two, split⟩
      · rw [parseIpv6_other (.inr many)] at parsed
        cases parsed
      · rw [parseIpv6_one admitted one] at parsed
        split_ifs at parsed with eight
        · obtain ⟨areHextets, isValue⟩ := hextets_eq_some.mp parsed
          exact .inl ⟨groupsOf text, eight, areHextets,
            (joined_groupsOf text).symm, isValue⟩
        · cases parsed
      · rw [parseIpv6_two admitted two] at parsed
        split_ifs at parsed with room
        · obtain ⟨areHextets, isValue⟩ := hextets_eq_some.mp parsed
          refine .inr ⟨groupsOf first, groupsOf second, room, ?_, ?_, ?_⟩
          · intro group member
            apply areHextets
            rw [List.append_assoc]
            rcases List.mem_append.mp member with inFirst | inSecond
            · exact List.mem_append_left _ inFirst
            · exact List.mem_append_right _ (List.mem_append_right _ inSecond)
          · rw [joined_groupsOf, joined_groupsOf, split]
          · rw [isValue]
            simp [numberOf_zero]
        · cases parsed
    · rw [parseIpv6_other (.inl admitted)] at parsed
      cases parsed
  · rintro (⟨groups, eight, areHextets, rfl, rfl⟩ |
      ⟨left, right, room, areHextets, rfl, rfl⟩)
    · have sides : splitPair colon (joined colon groups) =
          [joined colon groups] := by
        have split := splitPair_joined areHextets []
        simpa [splitPair] using split
      have nonempty : joined colon groups ≠ [] := by
        intro empty
        have none := groupsOf_joined areHextets
        rw [empty, groupsOf, if_pos rfl] at none
        rw [← none] at eight
        simp at eight
      rw [parseIpv6_one (admitted_of_units nonempty (joined_units areHextets))
        sides, groupsOf_joined areHextets, if_pos eight, hextets_eq_some]
      exact ⟨areHextets, rfl⟩
    · have leftHextets : ∀ group ∈ left, IsHextet group := fun group member =>
        areHextets group (List.mem_append_left _ member)
      have rightHextets : ∀ group ∈ right, IsHextet group := fun group member =>
        areHextets group (List.mem_append_right _ member)
      have rightSide : splitPair colon (joined colon right) =
          [joined colon right] := by
        have split := splitPair_joined rightHextets []
        simpa [splitPair] using split
      have sides : splitPair colon
          (joined colon left ++ colon :: colon :: joined colon right) =
          [joined colon left, joined colon right] := by
        rw [splitPair_joined leftHextets, splitPair_pair, rightSide]
        simp
      have admitted : AdmittedUnits
          (joined colon left ++ colon :: colon :: joined colon right) := by
        apply admitted_of_units (by simp)
        intro unit member
        simp only [List.mem_append, List.mem_cons] at member
        rcases member with inLeft | rfl | rfl | inRight
        · exact joined_units leftHextets unit inLeft
        · simp
        · simp
        · exact joined_units rightHextets unit inRight
      rw [parseIpv6_two admitted sides, groupsOf_joined leftHextets,
        groupsOf_joined rightHextets, if_pos room, hextets_eq_some]
      constructor
      · intro group member
        simp only [List.mem_append, List.mem_replicate] at member
        rcases member with (inLeft | ⟨_, rfl⟩) | inRight
        · exact leftHextets group inLeft
        · exact isHextet_zero
        · exact rightHextets group inRight
      · simp [numberOf_zero]

/-! ## Networks -/

theorem IsIpv4.value_lt {text : JsString} {value : Nat}
    (isIpv4 : IsIpv4 text value) : value < 2 ^ 32 := by
  obtain ⟨groups, four, areOctets, _, rfl⟩ := isIpv4
  have bound : positional 256 (groups.map (numberOf 10)) <
      256 ^ (groups.map (numberOf 10)).length := by
    apply positional_lt (by decide)
    intro digit member
    obtain ⟨group, isGroup, rfl⟩ := List.mem_map.mp member
    have most := (areOctets group isGroup).value
    omega
  rw [List.length_map, four] at bound
  exact bound

theorem IsIpv6.value_lt {text : JsString} {value : Nat}
    (isIpv6 : IsIpv6 text value) : value < 2 ^ 128 := by
  have bounded : ∀ digits : List Nat, digits.length = 8 →
      (∀ digit ∈ digits, digit < 65536) →
      positional 65536 digits < 2 ^ 128 := by
    intro digits eight small
    have bound := positional_lt (by decide : 1 < 65536) small
    rw [eight] at bound
    exact bound
  rcases isIpv6 with ⟨groups, eight, areHextets, _, rfl⟩ |
    ⟨left, right, room, areHextets, _, rfl⟩
  · apply bounded
    · rw [List.length_map, eight]
    · intro digit member
      obtain ⟨group, isGroup, rfl⟩ := List.mem_map.mp member
      exact (areHextets group isGroup).value_lt
  · apply bounded
    · simp only [List.length_append, List.length_map, List.length_replicate]
      omega
    · intro digit member
      simp only [List.mem_append, List.mem_map, List.mem_replicate] at member
      rcases member with (⟨group, isGroup, rfl⟩ | ⟨_, rfl⟩) | ⟨group, isGroup, rfl⟩
      · exact (areHextets group (List.mem_append_left _ isGroup)).value_lt
      · decide
      · exact (areHextets group (List.mem_append_right _ isGroup)).value_lt

/-- The mask has the bits between the host bits and the length of an address. -/
theorem testBit_maskOf {bits prefixLength : Nat} (place : Nat)
    (within : prefixLength ≤ bits) :
    (maskOf bits prefixLength).testBit place =
      (decide (bits - prefixLength ≤ place) && decide (place < bits)) := by
  have whole : maskOf bits prefixLength =
      (2 ^ bits - 1) ^^^ (2 ^ (bits - prefixLength) - 1) := by
    unfold maskOf
    simp only [Nat.one_shiftLeft]
    split_ifs with none
    · rw [none, Nat.sub_zero, Nat.xor_self]
    · rfl
  rw [whole, Nat.testBit_xor, Nat.testBit_two_pow_sub_one,
    Nat.testBit_two_pow_sub_one]
  by_cases low : place < bits - prefixLength
  · have inAddress : place < bits := by omega
    simp [low, inAddress, not_le.mpr low]
  · simp [low, not_lt.mp low]

/-- Two addresses agree under the mask when they agree in their first bits. -/
theorem and_maskOf_eq_iff {bits prefixLength address network : Nat}
    (within : prefixLength ≤ bits) (small : address < 2 ^ bits)
    (alsoSmall : network < 2 ^ bits) :
    address &&& maskOf bits prefixLength = network &&& maskOf bits prefixLength ↔
      address / 2 ^ (bits - prefixLength) =
        network / 2 ^ (bits - prefixLength) := by
  rw [← Nat.shiftRight_eq_div_pow, ← Nat.shiftRight_eq_div_pow]
  constructor
  · intro same
    apply Nat.eq_of_testBit_eq
    intro place
    rw [Nat.testBit_shiftRight, Nat.testBit_shiftRight]
    by_cases inAddress : bits - prefixLength + place < bits
    · have bit := congrArg (Nat.testBit · (bits - prefixLength + place)) same
      simpa [Nat.testBit_and, testBit_maskOf _ within, inAddress] using bit
    · have beyond : 2 ^ bits ≤ 2 ^ (bits - prefixLength + place) :=
        Nat.pow_le_pow_right (by decide) (by omega)
      rw [Nat.testBit_lt_two_pow (small.trans_le beyond),
        Nat.testBit_lt_two_pow (alsoSmall.trans_le beyond)]
  · intro same
    apply Nat.eq_of_testBit_eq
    intro place
    rw [Nat.testBit_and, Nat.testBit_and, testBit_maskOf _ within]
    by_cases high : bits - prefixLength ≤ place
    · have bit := congrArg
        (Nat.testBit · (place - (bits - prefixLength))) same
      simp only [Nat.testBit_shiftRight] at bit
      rw [Nat.add_sub_of_le high] at bit
      rw [bit]
    · simp [high]

theorem sameNetwork_iff {bits prefixLength address network : Nat}
    (small : address < 2 ^ bits) (alsoSmall : network < 2 ^ bits) :
    sameNetwork bits prefixLength (some address) (some network) = true ↔
      SameBits bits prefixLength address network := by
  unfold sameNetwork SameBits
  split_ifs with beyond
  · simp [not_le.mpr beyond]
  · have within := not_lt.mp beyond
    simp [within, and_maskOf_eq_iff within small alsoSmall]

theorem IsIpv4.noSlash {text : JsString} {value : Nat}
    (isIpv4 : IsIpv4 text value) : slash ∉ text := by
  obtain ⟨groups, _, areOctets, rfl, _⟩ := isIpv4
  intro member
  rcases mem_joined member with isDot | ⟨group, isGroup, inGroup⟩
  · simp [slash, dot] at isDot
  · have digit := isDigit_iff.mp ((areOctets group isGroup).digits slash inGroup)
    simp [slash] at digit

theorem IsIpv4.hasDot {text : JsString} {value : Nat}
    (isIpv4 : IsIpv4 text value) : dot ∈ text := by
  obtain ⟨groups, four, _, rfl, _⟩ := isIpv4
  match groups, four with
  | first :: second :: groups, _ =>
      rw [joined_cons]
      exact List.mem_append_right _ List.mem_cons_self

theorem IsIpv6.units {text : JsString} {value : Nat}
    (isIpv6 : IsIpv6 text value) :
    ∀ unit ∈ text, (isHexDigit unit || unit = colon) = true := by
  rcases isIpv6 with ⟨groups, _, areHextets, rfl, _⟩ |
    ⟨left, right, _, areHextets, rfl, _⟩
  · exact joined_units areHextets
  · intro unit member
    rw [List.mem_append, List.mem_cons, List.mem_cons] at member
    rcases member with inLeft | rfl | rfl | inRight
    · exact joined_units (fun group isGroup =>
        areHextets group (List.mem_append_left _ isGroup)) unit inLeft
    · simp
    · simp
    · exact joined_units (fun group isGroup =>
        areHextets group (List.mem_append_right _ isGroup)) unit inRight

theorem IsIpv6.noSlash {text : JsString} {value : Nat}
    (isIpv6 : IsIpv6 text value) : slash ∉ text := by
  intro member
  have admitted := isIpv6.units slash member
  revert admitted
  decide

theorem IsIpv6.noDot {text : JsString} {value : Nat}
    (isIpv6 : IsIpv6 text value) : dot ∉ text := by
  intro member
  have admitted := isIpv6.units dot member
  revert admitted
  decide

theorem IsIpv6.ne_nil {text : JsString} {value : Nat}
    (isIpv6 : IsIpv6 text value) : text ≠ [] := by
  rcases isIpv6 with ⟨groups, eight, areHextets, rfl, _⟩ | ⟨_, _, _, _, rfl, _⟩
  · match groups, eight with
    | first :: groups, _ =>
        obtain ⟨_, _, starts, _⟩ :=
          joined_starts (areHextets first List.mem_cons_self) groups
        rw [starts]
        exact List.cons_ne_nil _ _
  · simp

/-! ## Matches -/

/-- The two halves of a network that has one slash. -/
theorem cidrMatches_halves (address : JsString) {networkAddress prefixText : JsString}
    (clean : slash ∉ networkAddress) (nonempty : networkAddress ≠ [])
    (someDigits : prefixText ≠ [])
    (digits : ∀ unit ∈ prefixText, isDigit unit = true) :
    cidrMatches address (networkAddress ++ slash :: prefixText) =
      if (parseIpv4 address).isSome ∧ (parseIpv4 networkAddress).isSome then
        .ok (sameNetwork 32 (numberOf 10 prefixText) (parseIpv4 address)
          (parseIpv4 networkAddress))
      else
        match parseIpv6 address, parseIpv6 networkAddress with
        | .ok parsedAddress, .ok parsedNetwork =>
            .ok (sameNetwork 128 (numberOf 10 prefixText) parsedAddress
              parsedNetwork)
        | .error thrown, _ => .error thrown
        | _, .error thrown => .error thrown := by
  have cleanPrefix : slash ∉ prefixText := by
    intro member
    have digit := isDigit_iff.mp (digits slash member)
    simp [slash] at digit
  have halves : (networkAddress ++ slash :: prefixText).splitOn slash =
      [networkAddress, prefixText] := by
    rw [List.splitOn_append_cons_self_of_not_mem clean,
      List.splitOn_eq_singleton cleanPrefix]
  have allDigits : prefixText.all isDigit = true := List.all_eq_true.mpr digits
  unfold cidrMatches
  simp only [halves]
  rw [if_neg (by simp [nonempty, someDigits, allDigits])]

theorem not_mem_of_splitOn {unit : UInt16} {text : JsString}
    (whole : (text.splitOn unit).length = 1) : unit ∉ text := by
  intro member
  obtain ⟨first, rest, rfl⟩ := List.append_of_mem member
  rw [List.splitOn_append_cons_self, List.length_append] at whole
  have firstParts := List.length_pos_iff.mpr (List.splitOn_ne_nil unit first)
  have restParts := List.length_pos_iff.mpr (List.splitOn_ne_nil unit rest)
  omega

/-- A network that has not the form of an address and a prefix length matches
nothing. -/
theorem cidrMatches_malformed (address network : JsString) :
    (∃ networkAddress prefixText,
      network = networkAddress ++ slash :: prefixText ∧
        slash ∉ networkAddress ∧ networkAddress ≠ [] ∧ prefixText ≠ [] ∧
        ∀ unit ∈ prefixText, isDigit unit = true) ∨
      cidrMatches address network = .ok false := by
  have whole : [slash].intercalate (network.splitOn slash) = network :=
    List.intercalate_splitOn slash
  unfold cidrMatches
  split
  · rename_i networkAddress prefixText halves
    rw [halves, List.intercalate_cons_cons, List.intercalate_singleton,
      List.append_assoc, List.singleton_append] at whole
    by_cases malformed : networkAddress = [] ∨ prefixText = [] ∨
        ¬ prefixText.all isDigit = true
    · rw [if_pos malformed]
      exact .inr rfl
    · simp only [not_or, not_not] at malformed
      obtain ⟨nonempty, someDigits, digits⟩ := malformed
      refine .inl ⟨networkAddress, prefixText, whole.symm, ?_, nonempty,
        someDigits, List.all_eq_true.mp digits⟩
      rw [← whole, List.splitOn_append_cons_self] at halves
      have sizes := congrArg List.length halves
      rw [List.length_append] at sizes
      have firstParts := List.length_pos_iff.mpr
        (List.splitOn_ne_nil slash networkAddress)
      have restParts := List.length_pos_iff.mpr
        (List.splitOn_ne_nil slash prefixText)
      apply not_mem_of_splitOn
      simp only [List.length_cons, List.length_nil] at sizes
      omega
  · exact .inr rfl

theorem cidrMatches_returns (address network : JsString) :
    ∃ result, cidrMatches address network = .ok result := by
  rcases cidrMatches_malformed address network with
    ⟨networkAddress, prefixText, rfl, clean, nonempty, someDigits, digits⟩ |
      malformed
  · obtain ⟨parsedAddress, isAddress⟩ := parseIpv6_returns address
    obtain ⟨parsedNetwork, isNetwork⟩ := parseIpv6_returns networkAddress
    rw [cidrMatches_halves address clean nonempty someDigits digits, isAddress,
      isNetwork]
    split_ifs <;> exact ⟨_, rfl⟩
  · exact ⟨false, malformed⟩

theorem cidrMatches_ipv4 {address networkAddress prefixText : JsString}
    {inner outer : Nat} (isAddress : IsIpv4 address inner)
    (isNetwork : IsIpv4 networkAddress outer) (someDigits : prefixText ≠ [])
    (digits : ∀ unit ∈ prefixText, isDigit unit = true) :
    cidrMatches address (networkAddress ++ slash :: prefixText) = .ok true ↔
      SameBits 32 (numberOf 10 prefixText) inner outer := by
  have nonempty : networkAddress ≠ [] := List.ne_nil_of_mem isNetwork.hasDot
  rw [cidrMatches_halves address isNetwork.noSlash nonempty someDigits digits,
    parseIpv4_iff.mpr isAddress, parseIpv4_iff.mpr isNetwork]
  simp only [Option.isSome_some, and_self, if_true, Except.ok.injEq]
  exact sameNetwork_iff isAddress.value_lt isNetwork.value_lt

theorem cidrMatches_ipv6 {address networkAddress prefixText : JsString}
    {inner outer : Nat} (isAddress : IsIpv6 address inner)
    (isNetwork : IsIpv6 networkAddress outer) (someDigits : prefixText ≠ [])
    (digits : ∀ unit ∈ prefixText, isDigit unit = true) :
    cidrMatches address (networkAddress ++ slash :: prefixText) = .ok true ↔
      SameBits 128 (numberOf 10 prefixText) inner outer := by
  have notIpv4 : ¬ ((parseIpv4 address).isSome = true ∧
      (parseIpv4 networkAddress).isSome = true) := by
    rintro ⟨parsed, _⟩
    obtain ⟨value, isValue⟩ := Option.isSome_iff_exists.mp parsed
    exact isAddress.noDot (parseIpv4_iff.mp isValue).hasDot
  rw [cidrMatches_halves address isNetwork.noSlash isNetwork.ne_nil someDigits
    digits, if_neg notIpv4, parseIpv6_iff.mpr isAddress,
    parseIpv6_iff.mpr isNetwork]
  simp only [Except.ok.injEq]
  exact sameNetwork_iff isAddress.value_lt isNetwork.value_lt

theorem cidrMatches_iff (address network : JsString) :
    cidrMatches address network = .ok true ↔ Contains network address := by
  constructor
  · intro matched
    rcases cidrMatches_malformed address network with
      ⟨networkAddress, prefixText, rfl, clean, nonempty, someDigits, digits⟩ |
        malformed
    · refine ⟨networkAddress, prefixText, rfl, someDigits, digits, ?_⟩
      have halves := matched
      rw [cidrMatches_halves address clean nonempty someDigits digits] at halves
      split_ifs at halves with bothIpv4
      · obtain ⟨inner, isInner⟩ := Option.isSome_iff_exists.mp bothIpv4.1
        obtain ⟨outer, isOuter⟩ := Option.isSome_iff_exists.mp bothIpv4.2
        have isAddress := parseIpv4_iff.mp isInner
        have isNetwork := parseIpv4_iff.mp isOuter
        exact .inl ⟨inner, outer, isAddress, isNetwork,
          (cidrMatches_ipv4 isAddress isNetwork someDigits digits).mp matched⟩
      · obtain ⟨parsedAddress, isInner⟩ := parseIpv6_returns address
        obtain ⟨parsedNetwork, isOuter⟩ := parseIpv6_returns networkAddress
        rw [isInner, isOuter] at halves
        simp only [Except.ok.injEq] at halves
        cases parsedAddress with
        | none => simp [sameNetwork] at halves
        | some inner =>
            cases parsedNetwork with
            | none => simp [sameNetwork] at halves
            | some outer =>
                have isAddress := parseIpv6_iff.mp isInner
                have isNetwork := parseIpv6_iff.mp isOuter
                exact .inr ⟨inner, outer, isAddress, isNetwork,
                  (cidrMatches_ipv6 isAddress isNetwork someDigits digits).mp
                    matched⟩
    · rw [malformed] at matched
      cases matched
  · rintro ⟨networkAddress, prefixText, rfl, someDigits, digits,
      ⟨inner, outer, isAddress, isNetwork, same⟩ |
      ⟨inner, outer, isAddress, isNetwork, same⟩⟩
    · exact (cidrMatches_ipv4 isAddress isNetwork someDigits digits).mpr same
    · exact (cidrMatches_ipv6 isAddress isNetwork someDigits digits).mpr same

/-- The parsers accept the text forms with their values, and the comparison is
that of the first bits; nothing throws. -/
theorem cidr_matching_exact :
    (∀ text value, parseIpv4 text = some value ↔ IsIpv4 text value) ∧
      (∀ text value, parseIpv6 text = .ok (some value) ↔ IsIpv6 text value) ∧
      (∀ address network,
        cidrMatches address network = .ok true ↔ Contains network address) ∧
      (∀ text, ∃ result, parseIpv6 text = .ok result) ∧
      ∀ address network, ∃ result, cidrMatches address network = .ok result :=
  ⟨fun _ _ => parseIpv4_iff, fun _ _ => parseIpv6_iff, cidrMatches_iff,
    parseIpv6_returns, cidrMatches_returns⟩

end Cidr

end Cloud

end ControlForge
