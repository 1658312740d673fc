import Airspace.Elementary.Exponential

/-!
# Hyperbolic functions and their inverses

`sinh` is a rational function of degree 7 over 6 up to `1/2`, then
`(e^x - e^-x)/2`, and past 21 only `e^x/2`; `cosh` is `(e^x + e^-x)/2` up to 21
and `e^x/2` past it. `tanh` is `x + x³ · P(x²)/Q(x²)` below `0.625`, then
`1 - 2/(e^2x + 1)`, and `±1` past half of `log 2^127`.

The inverses go through `log1p` near their zeros and through `log` away from
them, with `log x + ln 2` once `x` is so large that the square root adds
nothing.
-/

namespace Airspace.Elementary

open Airspace.Binary64

/-- The binary64 value nearest to `ln 2`. -/
def ln2 : Float := 6.93147180559945286227e-01

/-- Hyperbolic sine. -/
def sinh (x : Float) : Float :=
  let (negative, x) := if x < 0 then (true, -x) else (false, x)
  let t :=
    if x > 21 then exp x * 0.5
    else if x > 0.5 then
      let ex := exp x
      (ex - 1 / ex) * 0.5
    else
      let sq := x * x
      let t := (((-0.2630563213397497062819489000e+2 * sq + -0.2894211355989563807284660366e+4) * sq
        + -0.8991272022039509355398013511e+5) * sq + -0.6307673640497716991184787251e+6) * x
      t / (((sq + -0.173678953558233699533450911e+3) * sq + 0.1521517378790019070696485176e+5) * sq
        + -0.6307673640497716991212077277e+6)
  if negative then -t else t

/-- Hyperbolic cosine. -/
def cosh (x : Float) : Float :=
  let x := abs x
  if x > 21 then exp x * 0.5
  else
    let ex := exp x
    (ex + 1 / ex) * 0.5

/-- Hyperbolic tangent. -/
def tanh (x : Float) : Float :=
  let z := abs x
  if z > 0.5 * 8.8029691931113054295988e+01 then (if x < 0 then -1 else 1)
  else if z ≥ 0.625 then
    let s := exp (2 * z)
    let z := 1 - 2 / (s + 1)
    if x < 0 then -z else z
  else if x == 0 then x
  else
    let s := x * x
    x + x * s * ((-9.64399179425052238628e-1 * s + -9.92877231001918586564e1) * s
      + -1.61468768441708447952e3)
      / (((s + 1.12811678491632931402e2) * s + 2.23548839060100448583e3) * s
      + 4.84406305325125486048e3)

/-- Inverse hyperbolic sine. -/
def asinh (x : Float) : Float :=
  if x.isNaN || x.isInf then x
  else
    let (negative, x) := if x < 0 then (true, -x) else (false, x)
    let t :=
      if x > 268435456.0 then log x + ln2
      else if x > 2 then log (2 * x + 1 / ((x * x + 1).sqrt + x))
      else if x < 1.0 / 268435456.0 then x
      else log1p (x + x * x / (1 + (1 + x * x).sqrt))
    if negative then -t else t

/-- Inverse hyperbolic cosine; below one it is NaN. -/
def acosh (x : Float) : Float :=
  if x < 1 || x.isNaN then nan
  else if x == 1 then 0
  else if x ≥ 268435456.0 then log x + ln2
  else if x > 2 then log (2 * x - 1 / (x + (x * x - 1).sqrt))
  else
    let t := x - 1
    log1p (t + (2 * t + t * t).sqrt)

/-- Inverse hyperbolic tangent; outside `[-1, 1]` it is NaN. -/
def atanh (x : Float) : Float :=
  if x < -1 || x > 1 || x.isNaN then nan
  else if x == 1 then inf
  else if x == -1 then -inf
  else
    let (negative, x) := if x < 0 then (true, -x) else (false, x)
    let t :=
      if x < 1.0 / 268435456.0 then x
      else if x < 0.5 then
        let t := x + x
        0.5 * log1p (t + t * x / (1 - x))
      else 0.5 * log1p ((x + x) / (1 - x))
    if negative then -t else t

end Airspace.Elementary
