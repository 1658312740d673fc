import Airspace.Binary64.Basic

/-!
# The shortest decimal that reads back

A finite positive binary64 value `m · 2^e` is the rounding of every real in an
interval around it: from halfway to its lower neighbour to halfway to its upper
neighbour, the ends included exactly when `m` is even (ties go to even when
reading). The shortest decimal is found by trying the decimal grids
`10^p, 10^(p-1), …` from above the value downward: on the first grid that has a
point inside the interval, the point nearest the value is taken, an exact tie
going to the even digit string.

All comparisons cross-multiply naturals; nothing here rounds.
-/

namespace Airspace.Decimal

open Airspace.Binary64

/-- A nonnegative decimal `digits · 10^exponent`. -/
structure Scientific where
  digits : Nat
  exponent : Int
  deriving Repr, DecidableEq

/-- The reals that read back as one value, all scaled by `2^scale`:
`low ≤ value ≤ high`, the ends included when `closed`. -/
structure ReadInterval where
  low : Nat
  value : Nat
  high : Nat
  scale : Int
  closed : Bool
  deriving Repr

/-- The reading interval of the positive finite value `m · 2^e`. The neighbour
below is twice as close when `m` is the smallest significand of a binade above
the first one. -/
def readInterval (p : Parts) (biased : Nat) : ReadInterval :=
  let m := p.significand
  let lowerGap := if m = Nat.pow 2 52 ∧ biased > 1 then 1 else 2
  { low := 4 * m - lowerGap, value := 4 * m, high := 4 * m + 2,
    scale := p.exponent - 2, closed := m % 2 = 0 }

/-- `⌈a / b⌉` for a positive `b`. -/
def ceilDiv (a b : Nat) : Nat := (a + b - 1) / b

/-- `a / b` rounded to the nearest natural, a tie going to the even one. -/
def divEven (a b : Nat) : Nat :=
  let q := a / b
  let r := a % b
  if 2 * r > b ∨ (2 * r = b ∧ q % 2 = 1) then q + 1 else q

/-- The point of the grid `10^p` in the interval that is nearest the value, if
the grid has a point there. Both sides are brought to naturals by the factors
`up` (on the interval) and `down` (on the grid). -/
def gridPoint (r : ReadInterval) (p : Int) : Option Nat :=
  let up := Nat.pow 2 r.scale.toNat * Nat.pow 10 (-p).toNat
  let down := Nat.pow 10 p.toNat * Nat.pow 2 (-r.scale).toNat
  let lo := r.low * up
  let hi := r.high * up
  let first := if r.closed then ceilDiv lo down else lo / down + 1
  let last := if r.closed then hi / down else ceilDiv hi down - 1
  if first ≤ last ∧ 0 < last then
    let nearest := divEven (r.value * up) down
    some (if nearest < first then first else if nearest > last then last else nearest)
  else none

/-- Tries the grids `10^p` downward, at most `fuel` of them. -/
def searchGrids (r : ReadInterval) : Nat → Int → Option Scientific
  | 0, _ => none
  | fuel + 1, p =>
    match gridPoint r p with
    | some d => some ⟨d, p⟩
    | none => searchGrids r fuel (p - 1)

/-- Removes trailing zero digits, moving them into the exponent. -/
def Scientific.trim : Nat → Scientific → Scientific
  | 0, s => s
  | fuel + 1, s =>
    if s.digits ≠ 0 ∧ s.digits % 10 = 0 then trim fuel ⟨s.digits / 10, s.exponent + 1⟩ else s

/-- The shortest decimal that reads back as the magnitude of a finite nonzero
value, nearest it among those of that length. Zero gives `0`. -/
def shortest (x : Float) : Scientific :=
  let p := parts x
  if p.significand = 0 then ⟨0, 0⟩
  else
    let r := readInterval p (biasedExponent x)
    -- `⌊log₁₀ 2^k⌋` for the binary order of magnitude `k`, one below at most
    let k : Int := (bitLength r.value : Int) - 1 + r.scale
    let start := k * 78913 / 262144 + 2
    match searchGrids r 24 start with
    | some s => s.trim 20
    | none => ⟨0, 0⟩

/-- The digit string of the decimal and its decimal exponent in scientific
notation (the power of ten of its leading digit). -/
def Scientific.layoutParts (s : Scientific) : String × Int :=
  let text := toString s.digits
  (text, (text.length : Int) + s.exponent - 1)

end Airspace.Decimal
