import Airspace.Elementary.Reduction

/-!
# Arctangent and the angle of a vector

The arctangent of a nonnegative argument is reduced to `[0, 0.66]`: above
`tan(3π/8)` through `π/2 - atan(1/x)`, between the two bounds through
`π/4 + atan((x-1)/(x+1))`, and there a rational function of degree 4 over 5 in
`x²` is used. The lost low part of π/2 is added back at the end.

`atan2 y x` is the angle of the vector `(x, y)` in `(-π, π]`, with the signed
zeros and infinities giving the limits of that angle.

`asin x` is the arctangent of `x / √(1 - x²)`, taken as `π/2` less the
arctangent of the reciprocal above `0.7`; `acos x` is `π/2 - asin x`.
-/

namespace Airspace.Elementary

open Airspace.Binary64

/-- The binary64 value nearest to π/2. -/
def halfPi : Float := 1.5707963267948966

/-- The binary64 value nearest to 3π/4. -/
def threeQuarterPi : Float := 2.356194490192345

/-- What the binary64 π/2 lacks of the real π/2. -/
def halfPiLow : Float := 6.123233995736765886130e-17

/-- `tan(3π/8)`, where the reduction through `1/x` starts. -/
def tanThreeEighthsPi : Float := 2.41421356237309504880

/-- The arctangent on `[0, 0.66]` as `x + x · z·P(z)/Q(z)` with `z = x²`. -/
def atanKernel (x : Float) : Float :=
  let z := x * x
  let z := z * ((((-8.750608600031904122785e-01 * z + -1.615753718733365076637e+01) * z
      + -7.500855792314704667340e+01) * z + -1.228866684490136173410e+02) * z
      + -6.485021904942025371773e+01)
    / (((((z + 2.485846490142306297962e+01) * z + 1.650270098316988542046e+02) * z
      + 4.328810604912902668951e+02) * z + 4.853903996359136964868e+02) * z
      + 1.945506571482613964425e+02)
  x * z + x

/-- The arctangent of a positive argument, reduced to the kernel's interval. -/
def atanPositive (x : Float) : Float :=
  if x ≤ 0.66 then atanKernel x
  else if x > tanThreeEighthsPi then halfPi - atanKernel (1 / x) + halfPiLow
  else quarterPi + atanKernel ((x - 1) / (x + 1)) + 3.061616997868382943065e-17

/-- Arctangent, odd in its argument; zeros are returned as given. -/
def atan (x : Float) : Float :=
  if x == 0 then x
  else if x > 0 then atanPositive x
  else -atanPositive (-x)

/-- The angle of the vector `(x, y)`, in `(-π, π]`. -/
def atan2 (y x : Float) : Float :=
  if y.isNaN || x.isNaN then nan
  else if y == 0 then
    if x ≥ 0 && !signBit x then copySign 0 y else copySign pi y
  else if x == 0 then copySign halfPi y
  else if x.isInf then
    if x > 0 then (if y.isInf then copySign quarterPi y else copySign 0 y)
    else (if y.isInf then copySign threeQuarterPi y else copySign pi y)
  else if y.isInf then copySign halfPi y
  else
    let q := atan (y / x)
    if x < 0 then (if q ≤ 0 then q + pi else q - pi) else q

/-- Arcsine; outside `[-1, 1]` it is NaN, and zeros are returned as given. -/
def asin (x : Float) : Float :=
  if x == 0 then x
  else
    let (negative, x) := if x < 0 then (true, -x) else (false, x)
    if x > 1 then nan
    else
      let t := (1 - x * x).sqrt
      let t := if x > 0.7 then halfPi - atanPositive (t / x) else atanPositive (x / t)
      if negative then -t else t

/-- Arccosine, as `π/2 - asin x`. -/
def acos (x : Float) : Float := halfPi - asin x

end Airspace.Elementary
