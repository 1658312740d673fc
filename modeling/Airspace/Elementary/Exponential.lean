import Airspace.Elementary.Logarithm

/-!
# Exponential, powers and the logarithms beside the natural one

`exp x` writes `x = k · ln 2 + r` with `k` the truncation of `x · log₂ e` and
`ln 2` in two parts, evaluates `e^(r/16) - 1` by its Taylor polynomial of degree
eight, squares the result four times through `u ↦ u · (u + 2)`, which maps
`e^t - 1` to `e^(2t) - 1`, and scales `1 + u` by `2^k` with one or two exact
multiplications by powers of two. Arguments past about `709.78` overflow.

`pow x y` splits `|y|` into its integer part, done by repeated squaring of the
fraction of `x` with the powers of two kept apart, and a fraction in
`[-1/2, 1/2]`, done through `exp (f · log x)`; a negative `y` takes the
reciprocal at the end. The special cases of signed zeros, infinities and NaN
come first.

`log1p x` is `log (1 + x)` without the loss of the low bits of `x`: the
rounding error of `1 + x` is carried as a correction term.
`log10` and `log2` scale the natural logarithm; exact powers of two have an
exact `log2`.
-/

namespace Airspace.Elementary

open Airspace.Binary64

/-- `x · 2^e`, rounded once; zeros, infinities and NaN are returned as given. -/
def ldexp (x : Float) (e : Int) : Float :=
  if x == 0 || x.isNaN || x.isInf then x
  else
    let p := parts x
    ofParts ⟨p.negative, p.significand, p.exponent + e⟩

/-- The power of two with the given stored exponent, as a bit pattern. -/
def twoToStored (biased : Nat) : Float := Float.ofBits (UInt64.ofNat (biased * Nat.pow 2 52))

/-- Truncation toward zero to a 32-bit integer; out of range the most negative one. -/
def toInt32Trunc (x : Float) : Int :=
  if x.isNaN || x.isInf then -2147483648
  else
    let t := truncInt x
    if t < -2147483648 ∨ t > 2147483647 then -2147483648 else t

/-- `e^x`. NaN and `+∞` are returned as given, `-∞` gives zero. -/
def exp (x : Float) : Float :=
  if x.isNaN || x == inf then x
  else if x == -inf then 0
  else if x > 7.09782712893384e+02 then inf
  else
    let k := toInt32Trunc (x * 1.4426950408889634073599246810018920)
    let kf := Float.ofInt k
    let r := (x - kf * 0.69314718055966295651160180568695068359375)
      - kf * 0.28235290563031577122588448175013436025525412068e-12
    let r := r * 0.0625
    let u := (((((((2.4801587301587301587e-5 * r + 1.9841269841269841270e-4) * r
      + 1.3888888888888888889e-3) * r + 8.3333333333333333333e-3) * r
      + 4.1666666666666666667e-2) * r + 1.6666666666666666667e-1) * r + 0.5) * r + 1.0) * r
    let u := (2.0 + u) * u
    let u := (2.0 + u) * u
    let u := (2.0 + u) * u
    let u := (2.0 + u) * u
    let y := u + 1.0
    let biased := k + 1023
    if biased < 0 then
      if biased < -52 then 0
      else y * twoToStored (biased + 1022).toNat * twoToStored 1
    else if biased > 2047 then inf
    else y * twoToStored biased.toNat

/-- Natural logarithm of `1 + x`, accurate also for small `x`. -/
def log1p (x : Float) : Float :=
  let ln2Hi : Float := 6.93147180369123816490e-01
  let ln2Lo : Float := 1.90821492927058770002e-10
  if x < -1 || x.isNaN then nan
  else if x == -1 then -inf
  else if x == inf then inf
  else
    let ax := abs x
    if ax < 4.142135623730950488017e-01 && ax < 1.0 / 536870912.0 then
      if ax < 1.0 / 18014398509481984.0 then x else x - x * x * 0.5
    else
      -- `k` is the power of two split off, `f` the rest less one, `c` the correction
      let (k, f, c, iu) : Int × Float × Float × Nat :=
        if ax < 4.142135623730950488017e-01 && x > -2.928932188134524755992e-01 then (0, x, 0, 1)
        else
          let u := if ax < 9007199254740992.0 then 1.0 + x else x
          let k := (biasedExponent u : Int) - 1023
          let c :=
            if ax < 9007199254740992.0 then (if k > 0 then 1.0 - (u - x) else x - (u - 1.0)) / u
            else 0
          let iu := fraction u
          -- `u` brought into `[√2/2, √2)` by its stored exponent alone
          if iu < 0x6a09e667f3bcd then (k, pack false 1023 iu - 1.0, c, iu)
          else (k + 1, pack false 1022 iu - 1.0, c, (0x10000000000000 - iu) / 4)
      let kf := Float.ofInt k
      let hfsq := 0.5 * f * f
      if iu = 0 then
        if f == 0 then
          if k = 0 then 0 else kf * ln2Hi + (c + kf * ln2Lo)
        else
          let r := hfsq * (1.0 - 0.66666666666666666 * f)
          if k = 0 then f - r else kf * ln2Hi - ((r - (kf * ln2Lo + c)) - f)
      else
        let s := f / (2.0 + f)
        let z := s * s
        let r := z * (6.666666666666735130e-01 + z * (3.999999999940941908e-01
          + z * (2.857142874366239149e-01 + z * (2.222219843214978396e-01
          + z * (1.818357216161805012e-01 + z * (1.531383769920937332e-01
          + z * 1.479819860511658591e-01))))))
        if k = 0 then f - (hfsq - s * (hfsq + r))
        else kf * ln2Hi - ((hfsq - (s * (hfsq + r) + (kf * ln2Lo + c))) - f)

/-- Logarithm to base ten, as the natural one times `1/ln 10`. -/
def log10 (x : Float) : Float := log x * 0.43429448190325182765

/-- Logarithm to base two; an exact power of two gives its exponent. -/
def log2 (x : Float) : Float :=
  let (f, e) := frexp x
  if f == 0.5 then Float.ofInt (e - 1) else log f * 1.4426950408889634074 + Float.ofInt e

/-- Whether a value is an odd integer; none from `2^53` on is. -/
def isOddInteger (x : Float) : Bool :=
  if abs x ≥ 9007199254740992.0 then false
  else
    let t := truncInt x
    Float.ofInt t == x && t % 2 = 1

/-- The part of `x^n` made by repeated squaring: the running product is
`a · 2^ae` and the square being taken `x1 · 2^xe`, with `x1` kept in `[1/2, 1)`.
An exponent of the square past `2^12` already decides overflow or underflow. -/
def powerLoop (i : Nat) (x1 : Float) (xe : Int) (a : Float) (ae : Int) : Float × Int :=
  if _h : i = 0 then (a, ae)
  else if xe < -4096 || 4096 < xe then (a, ae + xe)
  else
    let (a, ae) := if i % 2 = 1 then (a * x1, ae + xe) else (a, ae)
    let x1 := x1 * x1
    let (x1, xe) := if x1 < 0.5 then (x1 + x1, 2 * xe - 1) else (x1, 2 * xe)
    powerLoop (i / 2) x1 xe a ae
termination_by i
decreasing_by omega

/-- `x^y` for `x` zero: an infinity of the sign of `x` for a negative odd `y`,
`x` itself for a positive odd `y`, otherwise `+∞` or `+0`. -/
def powerOfZero (x y : Float) : Float :=
  if y < 0 then (if signBit x && isOddInteger y then -inf else inf)
  else if signBit x && isOddInteger y then x else 0

/-- `x^y`. -/
def pow (x y : Float) : Float :=
  if y == 0 || x == 1 then 1
  else if y == 1 then x
  else if x.isNaN || y.isNaN then nan
  else if x == 0 then powerOfZero x y
  else if y.isInf then
    if x == -1 then 1 else if (abs x < 1) == (y > 0) then 0 else inf
  else if x.isInf then
    if x < 0 then powerOfZero (-0.0) (-y)
    else if y < 0 then 0 else inf
  else if y == 0.5 then x.sqrt
  else if y == -0.5 then 1 / x.sqrt
  else
    let ay := abs y
    let yi := ay.floor
    let yf := ay - yi
    if yf != 0 && x < 0 then nan
    else if yi ≥ 9223372036854775808.0 then
      if x == -1 then 1 else if (abs x < 1) == (y > 0) then 0 else inf
    else
      let (a, yi) :=
        if yf != 0 then
          let (yf, yi) := if yf > 0.5 then (yf - 1, yi + 1) else (yf, yi)
          (exp (yf * log x), yi)
        else (1, yi)
      let (x1, xe) := frexp x
      let (a, ae) := powerLoop (truncInt yi).toNat x1 xe a 0
      if y < 0 then ldexp (1 / a) (-ae) else ldexp a ae

end Airspace.Elementary
