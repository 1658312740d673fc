import Airspace.Spline.Periodic
import Airspace.Decimal.Notation

/-!
# Evaluating a periodic spline

A spline is evaluated only on its fitted domain `[0, period]`; any other
argument, NaN included, is a fault of the caller, reported as `DomainFault`.

A cubic piece is written through its end values and end curvatures,
`m₀ l³/6h + m₁ r³/6h + (y₀ - m₀h²/6) l/h + (y₁ - m₁h²/6) r/h` with `l`, `r` the
distances to the right and left knots. A quadratic piece is `yₖ + bₖu + cₖu²`
with `u` measured from its knot; the piece of the last half segment is the
first parabola, measured from the period backward.
-/

namespace Airspace.Spline

open Airspace.Decimal Airspace.Scalar

variable {α : Type} [Scalar α]

/-- An evaluation outside the fitted domain `[0, period]`. -/
structure DomainFault (α : Type) where
  argument : α
  period : α

/-- How a float is shown inside a message: shortest digits, positional for
exponents `-4 … 5`, otherwise `d.ddde±xx` with at least two exponent digits. -/
def messageNumber : Notation := ⟨-4, 5, 2, "NaN", "+Inf", "-Inf"⟩

/-- The text of a domain fault. -/
def DomainFault.message (f : DomainFault Float) : String :=
  "spline: evaluation at " ++ messageNumber.render f.argument ++
    " outside fitted domain [0, " ++ messageNumber.render f.period ++ "]"

/-- Whether `x` lies in the fitted domain; NaN does not. -/
def Periodic.inDomain (p : Periodic α) (x : α) : Bool :=
  !(isNaN x || x < 0 || x > p.period)

/-- The first index `k < n` with `p k`, or `n` if none; `p` is monotone on the knots. -/
def firstIndex (n : Nat) (p : Nat → Bool) : Nat :=
  ((List.range n).find? p).getD n

/-- The segment of a cubic spline that holds `x`: the first whose right knot
lies beyond `x`, the last segment for the period itself. -/
def Periodic.segment (p : Periodic α) (x : α) : Nat :=
  let n := p.times.size - 1
  let i := firstIndex n fun k => x < p.times.getD (k + 1) 0
  if i = n then n - 1 else i

/-- The parabola that holds `x` and the offset of `x` from its knot. -/
def Periodic.quadraticPiece (p : Periodic α) (mids : Array α) (x : α) : Nat × α :=
  let n := p.times.size - 1
  let k := firstIndex n fun i => x < mids.getD i 0
  if k = n then (0, x - p.period) else (k, x - p.times.getD k 0)

/-- The value of the spline at a point of its domain (no check). -/
def Periodic.valueAt (p : Periodic α) (x : α) : α :=
  match p.pieces with
  | .cubic m =>
    let i := p.segment x
    let t0 := p.times.getD i 0
    let t1 := p.times.getD (i + 1) 0
    let y0 := p.values.getD i 0
    let y1 := p.values.getD (i + 1) 0
    let m0 := m.getD i 0
    let m1 := m.getD (i + 1) 0
    let h := t1 - t0
    let l := t1 - x
    let r := x - t0
    m0 * l * l * l / (6 * h) + m1 * r * r * r / (6 * h) +
      (y0 - m0 * h * h / 6) * l / h + (y1 - m1 * h * h / 6) * r / h
  | .quadratic b c mids =>
    let (k, u) := p.quadraticPiece mids x
    p.values.getD k 0 + b.getD k 0 * u + c.getD k 0 * u * u

/-- The derivative of the spline at a point of its domain (no check). -/
def Periodic.slopeAt (p : Periodic α) (x : α) : α :=
  match p.pieces with
  | .cubic m =>
    let i := p.segment x
    let t0 := p.times.getD i 0
    let t1 := p.times.getD (i + 1) 0
    let y0 := p.values.getD i 0
    let y1 := p.values.getD (i + 1) 0
    let m0 := m.getD i 0
    let m1 := m.getD (i + 1) 0
    let h := t1 - t0
    let l := t1 - x
    let r := x - t0
    let falling := -m0
    falling * l * l / (2 * h) + m1 * r * r / (2 * h) + (y1 - y0) / h - (m1 - m0) * h / 6
  | .quadratic b c mids =>
    let (k, u) := p.quadraticPiece mids x
    b.getD k 0 + 2 * c.getD k 0 * u

/-- The value at `x`, or the fault when `x` is outside the domain. -/
def Periodic.eval (p : Periodic α) (x : α) : Except (DomainFault α) α :=
  if p.inDomain x then .ok (p.valueAt x) else .error ⟨x, p.period⟩

/-- The derivative at `x`, or the fault when `x` is outside the domain. -/
def Periodic.derivative (p : Periodic α) (x : α) : Except (DomainFault α) α :=
  if p.inDomain x then .ok (p.slopeAt x) else .error ⟨x, p.period⟩

end Airspace.Spline
