import Mathlib.Data.Finmap
import Mathlib.Data.Rat.Defs

/-!
# Decoded JSON values and Dart maps

`jsonDecode` yields null, booleans, integers, doubles, strings, lists and maps.
The stores keep maps from strings to such values; two maps are the same when
they agree on every key, which is equality of finite maps.
-/

namespace EduEbook.Json

/-- The values of Dart's `double`, with every finite one as the rational it
denotes. -/
inductive DartDouble
  | finite (value : ℚ)
  | infinity (negative : Bool)
  | nan
  deriving DecidableEq

inductive JsonValue
  | null
  | bool (value : Bool)
  | int (value : ℤ)
  | double (value : DartDouble)
  | string (value : String)
  | list (elements : List JsonValue)
  | map (entries : List (String × JsonValue))

/-- A Dart `Map` whose keys are strings. -/
abbrev DartMap := Finmap fun _ : String => JsonValue

/-- Dart's `map[key]`, which is null for an absent key. -/
def getValue (map : DartMap) (key : String) : JsonValue := (map.lookup key).getD .null

/-- Dart's `==` on two decoded values.  Numbers compare by value and `nan`
equals nothing; lists and maps compare by identity, so a value read back from a
file never equals the one it is compared with. -/
def sameValue : JsonValue → JsonValue → Bool
  | .null, .null => true
  | .bool left, .bool right => left == right
  | .int left, .int right => left == right
  | .int left, .double (.finite right) => (left : ℚ) == right
  | .double (.finite left), .int right => left == (right : ℚ)
  | .double .nan, .double .nan => false
  | .double left, .double right => left == right
  | .string left, .string right => left == right
  | _, _ => false

@[simp]
theorem sameValue_string_iff {value : JsonValue} {text : String} :
    sameValue value (.string text) = true ↔ value = .string text := by
  cases value <;> simp [sameValue]

@[simp]
theorem string_sameValue_iff {value : JsonValue} {text : String} :
    sameValue (.string text) value = true ↔ value = .string text := by
  cases value with
  | string other =>
      rw [sameValue, beq_iff_eq, JsonValue.string.injEq]
      exact eq_comm
  | _ => simp [sameValue]

end EduEbook.Json
