import ControlForge.Foundation.Json
import Mathlib

/-!
# How long a JSON text is

The length of a text is a sum over the members of an object and over the items
of an array.
-/

namespace ControlForge

namespace Json

variable (ascii : Bool)

theorem length_dumpsItems (items : List Json) :
    (dumpsItems ascii items).length =
      (items.map fun item => (dumpsChars ascii item).length + 1).sum + 1 := by
  induction items with
  | nil => simp [dumpsItems]
  | cons item items induction =>
      simp only [dumpsItems, List.length_cons, List.length_append, List.map_cons,
        List.sum_cons, induction]
      omega

theorem length_dumpsMembers (members : List (String × Json)) :
    (dumpsMembers ascii members).length =
      (members.map fun member => (quote ascii member.1).length +
        (dumpsChars ascii member.2).length + 2).sum + 1 := by
  induction members with
  | nil => simp [dumpsMembers]
  | cons member members induction =>
      simp only [dumpsMembers, List.length_cons, List.length_append,
        List.map_cons, List.sum_cons, induction]
      omega

/-- The first item stands behind a bracket as the others behind a comma. -/
theorem length_arr {items : List Json} (isNonempty : items ≠ []) :
    (dumpsChars ascii (.arr items)).length =
      (items.map fun item => (dumpsChars ascii item).length + 1).sum + 1 := by
  rw [← length_dumpsItems]
  cases items with
  | nil => contradiction
  | cons item items => simp [dumpsChars, dumpsItems]

theorem length_obj {members : List (String × Json)} (isNonempty : members ≠ []) :
    (dumpsChars ascii (.obj members)).length =
      (members.map fun member => (quote ascii member.1).length +
        (dumpsChars ascii member.2).length + 2).sum + 1 := by
  rw [← length_dumpsMembers]
  cases members with
  | nil => contradiction
  | cons member members => simp [dumpsChars, dumpsMembers]

/-- A last member behind the others. -/
theorem length_obj_concat {members : List (String × Json)}
    (isNonempty : members ≠ []) (key : String) (value : Json) :
    (dumpsChars ascii (.obj (members ++ [(key, value)]))).length =
      (dumpsChars ascii (.obj members)).length + (quote ascii key).length +
        (dumpsChars ascii value).length + 2 := by
  rw [length_obj ascii isNonempty, length_obj ascii (by simp), List.map_append,
    List.sum_append, List.map_singleton, List.sum_singleton]
  dsimp only
  omega

/-- A text whose characters are all written in so many. -/
theorem length_quote {text : String} {width : Nat}
    (isWide : ∀ character ∈ text.toList,
      (escapeChar ascii character).length = width) :
    (quote ascii text).length = width * text.length + 2 := by
  have escaped : (escapeChars ascii text.toList).length =
      width * text.toList.length := by
    rw [escapeChars, List.length_flatMap, List.map_congr_left isWide,
      List.map_const', List.sum_replicate_nat, Nat.mul_comm]
  rw [quote, List.length_cons, List.length_append, escaped, String.length_toList]
  rfl

theorem length_escapeChar_le (character : Char) :
    (escapeChar ascii character).length ≤ 12 := by
  unfold escapeChar escapeCodePoint
  split_ifs <;> simp [unicodeEscape]

/-- A character of the basic plane outside of ASCII is written as `\uXXXX`. -/
theorem length_escapeChar_wide {character : Char}
    (wide : 0x7F ≤ character.toNat) (basic : character.toNat < 0x10000) :
    (escapeChar true character).length = 6 := by
  have differs {other : Char} (narrow : other.toNat < 0x7F) : character ≠ other := by
    rintro rfl
    omega
  have isEscaped : needsUnicodeEscape true character = true := by
    simp [needsUnicodeEscape, wide]
  rw [escapeChar, if_neg (differs (by decide)), if_neg (differs (by decide)),
    if_neg (differs (by decide)), if_neg (differs (by decide)),
    if_neg (differs (by decide)), if_neg (by omega), if_neg (by omega),
    if_pos isEscaped, escapeCodePoint, if_pos basic]
  rfl

/-- At worst each character is written as a pair of surrogates. -/
theorem length_quote_le (text : String) :
    (quote ascii text).length ≤ 12 * text.length + 2 := by
  have escaped : (escapeChars ascii text.toList).length ≤
      12 * text.toList.length := by
    induction text.toList with
    | nil => simp [escapeChars]
    | cons character characters induction =>
        have atMost := length_escapeChar_le ascii character
        rw [escapeChars] at induction
        rw [escapeChars, List.flatMap_cons, List.length_append, List.length_cons]
        omega
  rw [String.length_toList] at escaped
  rw [quote, List.length_cons, List.length_append, List.length_singleton]
  omega

theorem length_obj_le {members : List (String × Json)} {key value : Nat}
    (isNonempty : members ≠ [])
    (short : ∀ member ∈ members, (quote ascii member.1).length ≤ key ∧
      (dumpsChars ascii member.2).length ≤ value) :
    (dumpsChars ascii (.obj members)).length ≤
      members.length * (key + value + 2) + 1 := by
  rw [length_obj ascii isNonempty]
  have atMost := List.sum_le_card_nsmul (members.map fun member =>
    (quote ascii member.1).length + (dumpsChars ascii member.2).length + 2)
      (key + value + 2)
  rw [List.forall_mem_map, List.length_map, Nat.nsmul_eq_mul] at atMost
  refine Nat.succ_le_succ (atMost ?_)
  intro member isMember
  obtain ⟨shortKey, shortValue⟩ := short member isMember
  exact Nat.add_le_add_right (Nat.add_le_add shortKey shortValue) 2

end Json

end ControlForge
