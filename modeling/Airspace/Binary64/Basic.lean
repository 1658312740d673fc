/-!
# Binary64 values as sign, significand and power of two

Every finite binary64 value is `± m · 2^e` with a natural significand `m < 2^53`.
This module reads that decomposition off the bit pattern, builds a value back
from an exact integer and a power of two with one rounding to nearest-even, and
gives the exact operations that the numeric modules build on: truncation toward
zero, splitting off the binary exponent, and the remainder of truncated division.

The main facts are by construction: `ofParts` rounds once, so an exactly
representable `± m · 2^e` comes back unchanged, and `rem` computes its result in
exact integer arithmetic before that single rounding, which therefore never
changes it.
-/

namespace Airspace.Binary64

/-- A finite value written as `± significand · 2^exponent`. -/
structure Parts where
  negative : Bool
  significand : Nat
  exponent : Int
  deriving Repr, DecidableEq

/-- The quiet NaN that invalid operations produce. -/
def nan : Float := 0.0 / 0.0

/-- Positive infinity. -/
def inf : Float := 1.0 / 0.0

/-- Whether the sign bit is set; true also for `-0` and negative NaN patterns. -/
def signBit (x : Float) : Bool := x.toBits >>> 63 == 1

/-- The eleven exponent bits, as stored. -/
def biasedExponent (x : Float) : Nat := ((x.toBits >>> 52) &&& 0x7FF).toNat

/-- The fifty-two stored fraction bits. -/
def fraction (x : Float) : Nat := (x.toBits &&& 0xFFFFFFFFFFFFF).toNat

/-- The decomposition of a finite value. Subnormals have exponent `-1074` and no hidden bit. -/
def parts (x : Float) : Parts :=
  let b := biasedExponent x
  if b = 0 then ⟨signBit x, fraction x, -1074⟩
  else ⟨signBit x, fraction x + Nat.pow 2 52, (b : Int) - 1075⟩

/-- The number of binary digits of `n`; zero has none. -/
def bitLength (n : Nat) : Nat := if n = 0 then 0 else Nat.log2 n + 1

/-- `m / 2^s` rounded to the nearest integer, a tie going to the even neighbour. -/
def shiftRightEven (m s : Nat) : Nat :=
  if s = 0 then m
  else
    let q := m / Nat.pow 2 s
    let r := m % Nat.pow 2 s
    let half := Nat.pow 2 (s - 1)
    if r > half ∨ (r = half ∧ q % 2 = 1) then q + 1 else q

/-- The bit pattern with the given sign, stored exponent and fraction. -/
def pack (negative : Bool) (biased fraction : Nat) : Float :=
  Float.ofBits (UInt64.ofNat ((if negative then Nat.pow 2 63 else 0) + biased * Nat.pow 2 52 + fraction))

/-- The binary64 value nearest to `± m · 2^e`, ties to even, beyond the largest
finite value an infinity. Exactly representable values are returned unchanged. -/
def ofParts (p : Parts) : Float :=
  let m := p.significand
  if m = 0 then pack p.negative 0 0
  else
    -- the leading digit has weight `2^top`
    let top : Int := (bitLength m : Int) - 1 + p.exponent
    let quantum : Int := max (top - 52) (-1074)
    let rounded : Nat :=
      if p.exponent ≥ quantum then m * Nat.pow 2 (p.exponent - quantum).toNat
      else shiftRightEven m (quantum - p.exponent).toNat
    -- a carry out of the rounding moves to the next binade
    let (mant, quantum) :=
      if rounded = Nat.pow 2 53 then (Nat.pow 2 52, quantum + 1) else (rounded, quantum)
    if mant < Nat.pow 2 52 then pack p.negative 0 mant
    else
      let biased := quantum + 1075
      if biased ≥ 2047 then pack p.negative 2047 0
      else pack p.negative biased.toNat (mant - Nat.pow 2 52)

/-- Truncation toward zero of a finite value, as an integer. -/
def truncInt (x : Float) : Int :=
  let p := parts x
  let magnitude : Nat :=
    if p.exponent ≥ 0 then p.significand * Nat.pow 2 p.exponent.toNat
    else p.significand / Nat.pow 2 (-p.exponent).toNat
  if p.negative then -(magnitude : Int) else magnitude

/-- Conversion to a signed 64-bit integer by truncation. Values that do not fit,
and NaN, give the most negative integer, as the hardware conversion does. -/
def toInt64Trunc (x : Float) : Int :=
  if x.isNaN || x.isInf then -Int.pow 2 63
  else
    let t := truncInt x
    if t < -Int.pow 2 63 ∨ t ≥ Int.pow 2 63 then -Int.pow 2 63 else t

/-- Splits a finite nonzero value into a fraction of magnitude in `[1/2, 1)` and a
power of two: `x = f · 2^k`. Zero, infinities and NaN come back with `k = 0`. -/
def frexp (x : Float) : Float × Int :=
  if x == 0 || x.isNaN || x.isInf then (x, 0)
  else
    let p := parts x
    let shift := 53 - bitLength p.significand
    let normalized := p.significand * Nat.pow 2 shift
    (pack p.negative 1022 (normalized - Nat.pow 2 52), p.exponent - shift + 53)

/-- The remainder of truncated division, `x - n · y` with `n` the quotient
rounded toward zero. It is exact, carries the sign of `x`, is NaN when `y` is
zero, `x` is infinite or either is NaN, and is `x` itself when `y` is infinite. -/
def rem (x y : Float) : Float :=
  if y == 0 || x.isInf || x.isNaN || y.isNaN then nan
  else if y.isInf then x
  else
    let px := parts x
    let py := parts y
    let e := min px.exponent py.exponent
    let a := px.significand * Nat.pow 2 (px.exponent - e).toNat
    let b := py.significand * Nat.pow 2 (py.exponent - e).toNat
    ofParts ⟨px.negative, a % b, e⟩

/-- The magnitude, by clearing the sign bit (so also of NaN). -/
def abs (x : Float) : Float := Float.ofBits (x.toBits &&& 0x7FFFFFFFFFFFFFFF)

/-- The magnitude of `x` with the sign of `s`. -/
def copySign (x s : Float) : Float :=
  Float.ofBits ((x.toBits &&& 0x7FFFFFFFFFFFFFFF) ||| (s.toBits &&& 0x8000000000000000))

/-- The larger of two values: `+∞` if either is, else NaN if either is, and `+0`
over `-0`. -/
def max (x y : Float) : Float :=
  if x == inf || y == inf then inf
  else if x.isNaN || y.isNaN then nan
  else if x == 0 && y == 0 then (if signBit x then y else x)
  else if x > y then x else y

/-- The smaller of two values: `-∞` if either is, else NaN if either is, and `-0`
over `+0`. -/
def min (x y : Float) : Float :=
  if x == -inf || y == -inf then -inf
  else if x.isNaN || y.isNaN then nan
  else if x == 0 && y == 0 then (if signBit x then x else y)
  else if x < y then x else y

end Airspace.Binary64
