import Mathlib.Algebra.Order.Ring.Int

/-!
# Timestamps

Stored times are the fixed-width UTC texts of `_utc_text`, whose order is the
order of the instants they name.  The model keeps the instants: microseconds
since the epoch.  Where a text enters a document, it is `utcText`.
-/

namespace ControlForge

abbrev Timestamp := Int

/-- `timedelta(seconds=...)`. -/
def seconds (count : Int) : Int :=
  count * 1000000

theorem seconds_pos {count : Int} (positive : 0 < count) :
    0 < seconds count := by
  unfold seconds
  omega

/-- Year, month and day of a day counted from the epoch.  Years are counted
from March, so that the leap day comes last. -/
def civilDate (day : Int) : Int × Int × Int :=
  let shifted := day + 719468
  let era := shifted / 146097
  let dayOfEra := shifted % 146097
  let yearOfEra :=
    (dayOfEra - dayOfEra / 1460 + dayOfEra / 36524 - dayOfEra / 146096) / 365
  let dayOfYear := dayOfEra - (365 * yearOfEra + yearOfEra / 4 - yearOfEra / 100)
  let marchMonth := (5 * dayOfYear + 2) / 153
  let month := if marchMonth < 10 then marchMonth + 3 else marchMonth - 9
  let year := yearOfEra + era * 400 + if month ≤ 2 then 1 else 0
  (year, month, dayOfYear - (153 * marchMonth + 2) / 5 + 1)

/-- A number written with at least `width` digits. -/
def zeroPadded (width : Nat) (value : Int) : List Char :=
  let digits := Nat.toDigits 10 value.toNat
  List.replicate (width - digits.length) '0' ++ digits

/-- `_utc_text`: the ISO text of an instant in UTC, with microseconds. -/
def utcText (time : Timestamp) : String :=
  let (year, month, day) := civilDate (time / 86400000000)
  let second := time % 86400000000 / 1000000
  String.ofList
    (zeroPadded 4 year ++ '-' :: zeroPadded 2 month ++ '-' :: zeroPadded 2 day ++
      'T' :: zeroPadded 2 (second / 3600) ++
      ':' :: zeroPadded 2 (second / 60 % 60) ++
      ':' :: zeroPadded 2 (second % 60) ++
      '.' :: zeroPadded 6 (time % 1000000) ++ ['Z'])

example : utcText 951782400000001 = "2000-02-29T00:00:00.000001Z" := by decide

end ControlForge
