import Airspace.Settings.Layers
import Airspace.Decimal.Read
import Airspace.Time.DurationText
import Airspace.Binary64.Basic

/-!
# Reading a setting as text or as a duration

A setting's value is read as the type its use asks for, and a value that
cannot be read so gives that type's zero instead of an error.

* As text: a string as it is, a boolean as `true` or `false`, a number in its
  shortest digits without an exponent; anything else, or no value, is empty.
* As a duration: a number is nanoseconds, truncated toward zero; a string is a
  duration text, or a count of nanoseconds when it names no unit letter at all
  (none of `n s u µ m h`); anything else is zero.
-/

namespace Airspace.Settings

open Airspace.Json Airspace.Time

/-- How a number is written as text: shortest digits, always positional. -/
def settingNumber : Decimal.Notation := ⟨-400, 400, 2, "NaN", "+Inf", "-Inf"⟩

/-- The binary64 value of a number literal. -/
def numberValue (lit : String) : Float :=
  ((Decimal.Literal.ofJson? lit).map Decimal.Literal.toFloat).getD 0

/-- A setting read as text. -/
def asText : Option Value → String
  | some (.string s) => s
  | some (.bool b) => if b then "true" else "false"
  | some (.number lit) => settingNumber.render (numberValue lit)
  | _ => ""

/-- Whether a text names a unit letter of a duration. -/
def namesUnit (s : String) : Bool := s.toList.any fun c => "nsuµmh".toList.contains c

/-- A setting read as a duration. -/
def asDuration : Option Value → Duration
  | some (.number lit) => Binary64.toInt64Trunc (numberValue lit)
  | some (.string s) => ((Duration.parse? (if namesUnit s then s else s ++ "ns"))).getD 0
  | _ => 0

end Airspace.Settings
