import Mathlib.Data.Fintype.Basic

/-!
# URL-safe base64

Python's encoder, whose padding the callers strip, and its lenient decoder: it
skips characters outside of the alphabet and stops at a complete padding.  The
decoder finds the bytes of an encoded text again.
-/

namespace ControlForge

namespace Base64

def alphabet : List Char :=
  "ABCDEFGHIJKLMNOPQRSTUVWXYZabcdefghijklmnopqrstuvwxyz0123456789-_".toList

def sextetChar (sextet : Nat) : Char :=
  alphabet.getD sextet 'A'

/-- `urlsafe_b64encode`, and `rstrip` of the padding. -/
def encode : List UInt8 → List Char
  | [] => []
  | [first] =>
      [sextetChar (first.toNat / 4), sextetChar (first.toNat % 4 * 16)]
  | [first, second] =>
      [sextetChar (first.toNat / 4),
        sextetChar (first.toNat % 4 * 16 + second.toNat / 16),
        sextetChar (second.toNat % 16 * 4)]
  | first :: second :: third :: rest =>
      sextetChar (first.toNat / 4) ::
        sextetChar (first.toNat % 4 * 16 + second.toNat / 16) ::
        sextetChar (second.toNat % 16 * 4 + third.toNat / 64) ::
        sextetChar (third.toNat % 64) :: encode rest

/-- The value of a character; the standard alphabet is read as well. -/
def sextetOf (character : Char) : Option Nat :=
  if 'A' ≤ character ∧ character ≤ 'Z' then some (character.toNat - 65)
  else if 'a' ≤ character ∧ character ≤ 'z' then some (character.toNat - 71)
  else if '0' ≤ character ∧ character ≤ '9' then some (character.toNat + 4)
  else if character = '-' ∨ character = '+' then some 62
  else if character = '_' ∨ character = '/' then some 63
  else none

/-- What is read in the middle of a quadruple: how many of its characters, the
bits that are left of the last one, and the padding seen since. -/
def decodeFrom (position left pads : Nat) : List Char → Option (List UInt8)
  | [] => if position = 0 then some [] else none
  | '=' :: rest =>
      if position < 2 then decodeFrom position left pads rest
      else if 4 ≤ position + (pads + 1) then some []
      else decodeFrom position left (pads + 1) rest
  | character :: rest =>
      match sextetOf character with
      | none => decodeFrom position left pads rest
      | some value =>
          match position with
          | 0 => decodeFrom 1 value 0 rest
          | 1 => (decodeFrom 2 (value % 16) 0 rest).map
              (UInt8.ofNat (left * 4 + value / 16) :: ·)
          | 2 => (decodeFrom 3 (value % 4) 0 rest).map
              (UInt8.ofNat (left * 16 + value / 4) :: ·)
          | _ => (decodeFrom 0 0 0 rest).map
              (UInt8.ofNat (left * 64 + value) :: ·)

/-- `urlsafe_b64decode` of an ASCII text. -/
def decode (text : List Char) : Option (List UInt8) :=
  if text.all (·.toNat < 128) then decodeFrom 0 0 0 text else none

/-- `"=" * (-len(value) % 4)`. -/
def padding (text : List Char) : List Char :=
  List.replicate ((4 - text.length % 4) % 4) '='

/-! ## Reading back -/

theorem alphabet_eq : alphabet =
    ['A', 'B', 'C', 'D', 'E', 'F', 'G', 'H', 'I', 'J', 'K', 'L', 'M', 'N', 'O',
      'P', 'Q', 'R', 'S', 'T', 'U', 'V', 'W', 'X', 'Y', 'Z', 'a', 'b', 'c', 'd',
      'e', 'f', 'g', 'h', 'i', 'j', 'k', 'l', 'm', 'n', 'o', 'p', 'q', 'r', 's',
      't', 'u', 'v', 'w', 'x', 'y', 'z', '0', '1', '2', '3', '4', '5', '6', '7',
      '8', '9', '-', '_'] := by
  exact String.toList_ofList

theorem sextetOf_sextetChar {sextet : Nat} (small : sextet < 64) :
    sextetOf (sextetChar sextet) = some sextet := by
  have all : ∀ value : Fin 64, sextetOf (sextetChar value) = some value.val := by
    unfold sextetChar
    rw [alphabet_eq]
    decide +kernel
  exact all ⟨sextet, small⟩

/-- Only characters of ASCII other than the padding have a value. -/
theorem of_sextetOf_eq_some {character : Char} {value : Nat}
    (read : sextetOf character = some value) :
    character ≠ '=' ∧ character.toNat < 128 := by
  constructor
  · intro isPad
    rw [isPad] at read
    cases read
  · unfold sextetOf at read
    split_ifs at read with upper lower digit dash underscore
    · exact Nat.lt_of_le_of_lt upper.2 (by decide)
    · exact Nat.lt_of_le_of_lt lower.2 (by decide)
    · exact Nat.lt_of_le_of_lt digit.2 (by decide)
    · rcases dash with rfl | rfl <;> decide
    · rcases underscore with rfl | rfl <;> decide

theorem sextetChar_ne_pad {sextet : Nat} (small : sextet < 64) :
    sextetChar sextet ≠ '=' := by
  exact (of_sextetOf_eq_some (sextetOf_sextetChar small)).1

theorem sextetChar_ascii {sextet : Nat} (small : sextet < 64) :
    (sextetChar sextet).toNat < 128 := by
  exact (of_sextetOf_eq_some (sextetOf_sextetChar small)).2

section Steps

variable {left pads value : Nat} (small : value < 64) (rest : List Char)

include small

/-- A character of the alphabet is neither skipped nor a padding. -/
theorem decodeFrom_sextetChar (position : Nat) :
    decodeFrom position left pads (sextetChar value :: rest) =
      match position with
      | 0 => decodeFrom 1 value 0 rest
      | 1 => (decodeFrom 2 (value % 16) 0 rest).map
          (UInt8.ofNat (left * 4 + value / 16) :: ·)
      | 2 => (decodeFrom 3 (value % 4) 0 rest).map
          (UInt8.ofNat (left * 16 + value / 4) :: ·)
      | _ => (decodeFrom 0 0 0 rest).map
          (UInt8.ofNat (left * 64 + value) :: ·) := by
  rw [decodeFrom, sextetOf_sextetChar small]
  exact sextetChar_ne_pad small

theorem decodeFrom_first :
    decodeFrom 0 left pads (sextetChar value :: rest) =
      decodeFrom 1 value 0 rest := by
  exact decodeFrom_sextetChar small rest 0

theorem decodeFrom_second :
    decodeFrom 1 left pads (sextetChar value :: rest) =
      (decodeFrom 2 (value % 16) 0 rest).map
        (UInt8.ofNat (left * 4 + value / 16) :: ·) := by
  exact decodeFrom_sextetChar small rest 1

theorem decodeFrom_third :
    decodeFrom 2 left pads (sextetChar value :: rest) =
      (decodeFrom 3 (value % 4) 0 rest).map
        (UInt8.ofNat (left * 16 + value / 4) :: ·) := by
  exact decodeFrom_sextetChar small rest 2

theorem decodeFrom_fourth :
    decodeFrom 3 left pads (sextetChar value :: rest) =
      (decodeFrom 0 0 0 rest).map (UInt8.ofNat (left * 64 + value) :: ·) := by
  exact decodeFrom_sextetChar small rest 3

end Steps

theorem length_encode (bytes : List UInt8) :
    (encode bytes).length = (bytes.length * 4 + 2) / 3 := by
  fun_induction encode bytes with
  | case1 => rfl
  | case2 first => simp
  | case3 first second => simp
  | case4 first second third rest induction =>
      simp only [List.length_cons, induction]
      omega

theorem encode_ascii (bytes : List UInt8) :
    ∀ character ∈ encode bytes, character.toNat < 128 := by
  fun_induction encode bytes with
  | case1 => simp
  | case2 first =>
      have bound := first.toNat_lt
      simp only [List.forall_mem_cons, List.not_mem_nil, false_implies,
        forall_true_iff, and_true]
      exact ⟨sextetChar_ascii (by omega), sextetChar_ascii (by omega)⟩
  | case3 first second =>
      have bound := first.toNat_lt
      have secondBound := second.toNat_lt
      simp only [List.forall_mem_cons, List.not_mem_nil, false_implies,
        forall_true_iff, and_true]
      exact ⟨sextetChar_ascii (by omega), sextetChar_ascii (by omega),
        sextetChar_ascii (by omega)⟩
  | case4 first second third rest induction =>
      have bound := first.toNat_lt
      have secondBound := second.toNat_lt
      have thirdBound := third.toNat_lt
      simp only [List.forall_mem_cons]
      exact ⟨sextetChar_ascii (by omega), sextetChar_ascii (by omega),
        sextetChar_ascii (by omega), sextetChar_ascii (by omega), induction⟩

theorem padding_quadruple (first second third fourth : Char) (rest : List Char) :
    padding (first :: second :: third :: fourth :: rest) = padding rest := by
  unfold padding
  simp only [List.length_cons]
  congr 1
  omega

theorem ofNat_eq (byte : UInt8) {value : Nat} (same : value = byte.toNat) :
    UInt8.ofNat value = byte := by
  rw [same, UInt8.ofNat_toNat]

/-- The decoder finds the bytes again. -/
theorem decodeFrom_encode (bytes : List UInt8) :
    decodeFrom 0 0 0 (encode bytes ++ padding (encode bytes)) = some bytes := by
  fun_induction encode bytes with
  | case1 => rfl
  | case2 first =>
      have bound := first.toNat_lt
      rw [List.cons_append, decodeFrom_first (by omega), List.cons_append,
        decodeFrom_second (by omega), List.nil_append]
      have ended : ∀ left, decodeFrom 2 left 0 ['=', '='] = some [] :=
        fun left => rfl
      change (decodeFrom 2 _ 0 ['=', '=']).map _ = _
      rw [ended, Option.map_some, ofNat_eq first (by omega)]
  | case3 first second =>
      have bound := first.toNat_lt
      have secondBound := second.toNat_lt
      rw [List.cons_append, decodeFrom_first (by omega), List.cons_append,
        decodeFrom_second (by omega), List.cons_append,
        decodeFrom_third (by omega), List.nil_append]
      have ended : ∀ left, decodeFrom 3 left 0 ['='] = some [] := fun left => rfl
      change ((decodeFrom 3 _ 0 ['=']).map _).map _ = _
      rw [ended, Option.map_some, Option.map_some, ofNat_eq first (by omega),
        ofNat_eq second (by omega)]
  | case4 first second third rest induction =>
      have bound := first.toNat_lt
      have secondBound := second.toNat_lt
      have thirdBound := third.toNat_lt
      rw [padding_quadruple, List.cons_append, decodeFrom_first (by omega),
        List.cons_append, decodeFrom_second (by omega), List.cons_append,
        decodeFrom_third (by omega), List.cons_append,
        decodeFrom_fourth (by omega), induction]
      simp only [Option.map_some]
      rw [ofNat_eq first (by omega), ofNat_eq second (by omega),
        ofNat_eq third (by omega)]

theorem decode_encode (bytes : List UInt8) :
    decode (encode bytes ++ padding (encode bytes)) = some bytes := by
  have isAscii : (encode bytes ++ padding (encode bytes)).all
      (fun character => decide (character.toNat < 128)) = true := by
    rw [List.all_append, Bool.and_eq_true, List.all_eq_true, List.all_eq_true]
    refine ⟨fun character member => ?_, fun character member => ?_⟩
    · exact decide_eq_true (encode_ascii bytes character member)
    · rw [List.eq_of_mem_replicate member]
      rfl
  rw [decode, if_pos isAscii, decodeFrom_encode]

end Base64

end ControlForge
