import Mathlib.Data.List.Basic
import Mathlib.Data.List.DropRight
import Mathlib.Data.String.Basic

/-!
# Text functions of Python and of SQLite

Python strings are sequences of code points, and `strip` removes the
characters for which `isspace` holds.  SQLite's `trim` removes blanks only,
and its `length` counts the characters before the first NUL.
-/

namespace ControlForge

namespace Text

/-- The code points Python's `str.strip` removes. -/
def spacePoints : List Nat :=
  [0x09, 0x0A, 0x0B, 0x0C, 0x0D, 0x1C, 0x1D, 0x1E, 0x1F, 0x20, 0x85, 0xA0,
    0x1680, 0x2000, 0x2001, 0x2002, 0x2003, 0x2004, 0x2005, 0x2006, 0x2007,
    0x2008, 0x2009, 0x200A, 0x2028, 0x2029, 0x202F, 0x205F, 0x3000]

def isSpace (character : Char) : Bool :=
  spacePoints.contains character.toNat

def stripBoth (blank : Char → Bool) (text : List Char) : List Char :=
  ((text.dropWhile blank).reverse.dropWhile blank).reverse

def strip (text : String) : String :=
  String.ofList (stripBoth isSpace text.toList)

/-- SQLite `trim`. -/
def sqliteTrim (text : String) : String :=
  String.ofList (stripBoth (· == ' ') text.toList)

/-- SQLite `length` of a text value. -/
def sqliteLength (text : String) : Nat :=
  (text.toList.takeWhile fun character => character != '\x00').length

/-- What is left after stripping does not begin with a blank. -/
theorem stripBoth_head {blank : Char → Bool} {text : List Char}
    {first : Char} {rest : List Char}
    (stripped : stripBoth blank text = first :: rest) : blank first = false := by
  have ends : ((text.dropWhile blank).reverse.dropWhile blank) =
      (first :: rest).reverse := by
    rw [← stripped, stripBoth, List.reverse_reverse]
  have suffix : (first :: rest).reverse <:+ (text.dropWhile blank).reverse := by
    rw [← ends]
    exact List.dropWhile_suffix blank
  have isPrefix : (first :: rest) <+: text.dropWhile blank := by
    rw [← List.reverse_suffix]
    exact suffix
  obtain ⟨remaining, split⟩ := isPrefix
  cases remains : text.dropWhile blank with
  | nil => simp [remains] at split
  | cons head tail =>
      have same : first = head := by
        rw [remains] at split
        simpa using congrArg List.head? split
      have kept := List.head?_dropWhile_not blank text
      rw [remains] at kept
      simpa [same] using kept

/-- Python's strip leaves nothing for SQLite's `trim` to remove in front. -/
theorem strip_head_not_blank {text : String} {first : Char}
    {rest : List Char} (stripped : (strip text).toList = first :: rest) :
    first ≠ ' ' := by
  have notSpace : isSpace first = false := by
    have split : stripBoth isSpace text.toList = first :: rest := by
      rw [← stripped, strip, String.toList_ofList]
    exact stripBoth_head split
  rintro rfl
  revert notSpace
  decide

theorem stripBoth_idempotent (blank : Char → Bool) (text : List Char) :
    stripBoth blank (stripBoth blank text) = stripBoth blank text := by
  have keptHead : (stripBoth blank text).dropWhile blank =
      stripBoth blank text := by
    cases stripped : stripBoth blank text with
    | nil => rfl
    | cons first rest =>
        rw [List.dropWhile_cons_of_neg (by simp [stripBoth_head stripped])]
  rw [stripBoth, keptHead, stripBoth, List.reverse_reverse,
    List.dropWhile_idempotent]

theorem strip_strip (text : String) : strip (strip text) = strip text := by
  rw [strip, strip, String.toList_ofList, stripBoth_idempotent]

theorem length_eq_zero {text : String} :
    text.length = 0 ↔ text.toList = [] := by
  rw [← String.length_toList, List.length_eq_zero_iff]

theorem dropWhile_append_singleton {blank : Char → Bool} {last : Char}
    (kept : blank last = false) (text : List Char) :
    (text ++ [last]).dropWhile blank = text.dropWhile blank ++ [last] := by
  induction text with
  | nil => simp [kept]
  | cons first text induction =>
      rw [List.cons_append, List.dropWhile_cons, List.dropWhile_cons]
      split
      · exact induction
      · rfl

/-- Stripping keeps a first character that is not blank. -/
theorem stripBoth_cons {blank : Char → Bool} {first : Char}
    (kept : blank first = false) (rest : List Char) :
    ∃ remaining, stripBoth blank (first :: rest) = first :: remaining := by
  unfold stripBoth
  rw [List.dropWhile_cons_of_neg (by simp [kept]), List.reverse_cons,
    dropWhile_append_singleton kept, List.reverse_append]
  exact ⟨_, rfl⟩

/-- SQLite counts nothing in a stripped text exactly when it begins with
NUL. -/
theorem sqliteLength_trim_strip {text : String} {first : Char}
    {rest : List Char} (stripped : (strip text).toList = first :: rest) :
    sqliteLength (sqliteTrim (strip text)) = 0 ↔ first = '\x00' := by
  have notBlank : ((first == ' ') : Bool) = false := by
    simp [strip_head_not_blank stripped]
  obtain ⟨remaining, trimmed⟩ := @stripBoth_cons (· == ' ') first notBlank rest
  rw [sqliteLength, sqliteTrim, stripped, trimmed, String.toList_ofList,
    List.length_eq_zero_iff, List.takeWhile_cons]
  by_cases isNul : first = '\x00'
  · simp [isNul]
  · simp [isNul]

end Text

end ControlForge
