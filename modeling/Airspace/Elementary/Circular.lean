import Airspace.Elementary.Reduction

/-!
# Sine, cosine and tangent

After reduction to `z ∈ [-π/4, π/4]` in octant `j`, sine and cosine are
odd and even polynomials in `z` of degree 13 and 14, and the tangent is
`z + z³ · P(z²)/Q(z²)`; the octant decides which one is taken and the sign.
Every step rounds on its own, in the order written.
-/

namespace Airspace.Elementary

open Airspace.Binary64

/-- `z + z³ · S(z²)`, the sine polynomial on the reduced interval. -/
def sinKernel (z : Float) : Float :=
  let zz := z * z
  z + z * zz * ((((((1.58962301576546568060e-10 * zz) + -2.50507477628578072866e-8) * zz
    + 2.75573136213857245213e-6) * zz + -1.98412698295895385996e-4) * zz
    + 8.33333333332211858878e-3) * zz + -1.66666666666666307295e-1)

/-- `1 - z²/2 + z⁴ · C(z²)`, the cosine polynomial on the reduced interval. -/
def cosKernel (z : Float) : Float :=
  let zz := z * z
  1.0 - 0.5 * zz + zz * zz * ((((((-1.13585365213876817300e-11 * zz) + 2.08757008419747316778e-9) * zz
    + -2.75573141792967388112e-7) * zz + 2.48015872888517045348e-5) * zz
    + -1.38888888888730564116e-3) * zz + 4.16666666666665929218e-2)

/-- Sine. Zeros and NaN are returned as given; infinities give NaN. -/
def sin (x : Float) : Float :=
  if x == 0 || x.isNaN then x
  else if x.isInf then nan
  else
    let negative := x < 0
    let (j, z) := reduce (if negative then -x else x)
    let (negative, j) := if j > 3 then (!negative, j - 4) else (negative, j)
    let y := if j == 1 || j == 2 then cosKernel z else sinKernel z
    if negative then -y else y

/-- Cosine. Infinities and NaN give NaN. -/
def cos (x : Float) : Float :=
  if x.isNaN || x.isInf then nan
  else
    let (j, z) := reduce (abs x)
    let (negative, j) := if j > 3 then (true, j - 4) else (false, j)
    let negative := if j > 1 then !negative else negative
    let y := if j == 1 || j == 2 then sinKernel z else cosKernel z
    if negative then -y else y

/-- Tangent. Zeros and NaN are returned as given; infinities give NaN. -/
def tan (x : Float) : Float :=
  if x == 0 || x.isNaN then x
  else if x.isInf then nan
  else
    let negative := x < 0
    let (j, z) := reduce (if negative then -x else x)
    let zz := z * z
    let y :=
      if zz > 1e-14 then
        z + z * (zz * (((-1.30936939181383777646e4 * zz) + 1.15351664838587416140e6) * zz
          + -1.79565251976484877988e7) / ((((zz + 1.36812963470692954678e4) * zz
          + -1.32089234440210967447e6) * zz + 2.50083801823357915839e7) * zz
          + -5.38695755929454629881e7))
      else z
    let y := if j % 4 ≥ 2 then -1 / y else y
    if negative then -y else y

end Airspace.Elementary
