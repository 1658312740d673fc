import Airspace.Binary64.Basic

/-!
# Natural logarithm and the length of a vector

The logarithm writes `x = 2^k · (1 + f)` with `1 + f ∈ [√2/2, √2)`, then
`log(1 + f) = 2s + s·R(s²)` with `s = f/(2 + f)`, and adds `k · ln 2` in two
parts so that the product with `k` of the leading part is exact.

`hypot p q` is `√(p² + q²)` computed as `max · √(1 + (min/max)²)`, which cannot
overflow in between; an infinite side wins over a NaN.
-/

namespace Airspace.Elementary

open Airspace.Binary64

/-- Natural logarithm. Negative arguments and NaN give NaN, zero gives `-∞`. -/
def log (x : Float) : Float :=
  if x.isNaN || (x.isInf && x > 0) then x
  else if x < 0 then nan
  else if x == 0 then -inf
  else
    let (f1, ki) := frexp x
    let (f1, ki) := if f1 < 0.7071067811865476 then (f1 * 2, ki - 1) else (f1, ki)
    let f := f1 - 1
    let k := Float.ofInt ki
    let s := f / (2 + f)
    let s2 := s * s
    let s4 := s2 * s2
    let t1 := s2 * (6.666666666666735130e-01 + s4 * (2.857142874366239149e-01
      + s4 * (1.818357216161805012e-01 + s4 * 1.479819860511658591e-01)))
    let t2 := s4 * (3.999999999940941908e-01 + s4 * (2.222219843214978396e-01
      + s4 * 1.531383769920937332e-01))
    let r := t1 + t2
    let hfsq := 0.5 * f * f
    k * 6.93147180369123816490e-01 - ((hfsq - (s * (hfsq + r) + k * 1.90821492927058770002e-10)) - f)

/-- The length of the vector `(p, q)`. -/
def hypot (p q : Float) : Float :=
  let p := abs p
  let q := abs q
  if p.isInf || q.isInf then inf
  else if p.isNaN || q.isNaN then nan
  else
    let (p, q) := if p < q then (q, p) else (p, q)
    if p == 0 then 0
    else
      let q := q / p
      p * Float.sqrt (1 + q * q)

end Airspace.Elementary
