import Airspace.Scalar.Basic
import Airspace.Elementary.Circular
import Airspace.Elementary.Arctangent
import Airspace.Elementary.Logarithm
import Airspace.Linear.Condition

/-!
# Binary64 as a scalar system

Binary64 values with the elementary functions of this library. A factored
matrix counts as singular when the estimate of its reciprocal condition number
is zero.
-/

namespace Airspace

open Airspace.Elementary

instance : Scalar Float where
  ofNat := Float.ofNat
  ofInt := Float.ofInt
  ltDecidable := fun a b => Float.decLt a b
  leDecidable := fun a b => Float.decLe a b
  isFinite x := !(x.isNaN || x.isInf)
  isNaN := Float.isNaN
  abs := Binary64.abs
  sqrt := Float.sqrt
  sin := Elementary.sin
  cos := Elementary.cos
  tan := Elementary.tan
  atan := Elementary.atan
  atan2 := Elementary.atan2
  log := Elementary.log
  hypot := Elementary.hypot
  rem := Binary64.rem
  factorsSingular := Linear.conditionInfinite

end Airspace
