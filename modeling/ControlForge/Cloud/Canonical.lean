import ControlForge.Detection.Contracts
import ControlForge.Foundation.JsonUnits

/-!
# Values of the cloud runtime

The cloud runtime reads a JSON text into numbers of its own, which it prints
its own way, and writes the members of an object in the order of UTF-16 code
units.
-/

namespace ControlForge

namespace Cloud

open Detection (Number finiteNumber)

/-- `Number.MAX_SAFE_INTEGER`. -/
def maxSafeInteger : Int := 9007199254740991

/-- The value of a number. -/
def numberJson : Number → Json
  | .int value => .int value
  | .float literal wellFormed => .float (.finite literal wellFormed)

-- The number `JSON.stringify` prints for a number that `JSON.parse` read.
variable (reprint : Number → Number)

def reprinted (value : Json) : Json :=
  match finiteNumber value with
  | some number => numberJson (reprint number)
  | none => value

/-- What `JSON.parse` makes of the text of a value. -/
def scriptValue (value : Json) : Json :=
  Json.renumber (reprinted reprint) value

/-- `canonicalize`, and `canonicalJson`. -/
def canonicalize (value : Json) : String :=
  Json.dumps false (Json.sortUnits value)

theorem renumbers_reprinted : Json.Renumbers (reprinted reprint) := by
  intro value isNumber
  unfold reprinted
  cases found : finiteNumber value with
  | none => exact isNumber
  | some number =>
      simp only []
      cases reprint number with
      | int value => rfl
      | float literal wellFormed => rfl

theorem isStandard_reprinted (value : Json)
    (_ : value.isNumber = true) (standard : value.isStandard = true) :
    (reprinted reprint value).isStandard = true := by
  unfold reprinted
  cases found : finiteNumber value with
  | none => exact standard
  | some number =>
      simp only []
      cases reprint number with
      | int value => rfl
      | float literal wellFormed => rfl

end Cloud

end ControlForge
