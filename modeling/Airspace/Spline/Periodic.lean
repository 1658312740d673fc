import Airspace.Linear.Dense

/-!
# Periodic interpolating splines

A periodic spline through knots `(t₀, y₀), …, (tₙ, yₙ)` with `t₀ = 0`, strictly
increasing times and `yₙ = y₀` is a closed curve of period `tₙ`.

* Degree 3: a cubic on each segment, the curve, its slope and its curvature
  continuous everywhere including the seam. The unknowns are the curvatures
  (second derivatives) at the knots, from a cyclic tridiagonal system.
* Degree 2: a parabola `yₖ + bₖ u + cₖ u²` on each segment, but the pieces meet
  at the segment midpoints, where value and slope must agree; the unknowns are
  the `bₖ, cₖ`, from a system of twice the size.

The checks come in a fixed order: lengths, number of knots, degree, times,
closure; a fit whose system is singular, or whose solution is not finite, is
refused. The solver of the linear system is a parameter of `Periodic.fitWith`;
`Periodic.fit` uses elimination with partial pivoting (`Linear.solve`).
-/

namespace Airspace.Spline

open Airspace.Linear Airspace.Scalar

variable {α : Type} [Scalar α]

/-- Why a periodic spline cannot be fitted. -/
inductive FitError where
  /-- Times and values differ in length. -/
  | lengthMismatch
  /-- Fewer than three knots. -/
  | tooFewPoints
  /-- A degree other than 2 or 3. -/
  | unsupportedDegree
  /-- The first time is not zero, or the times do not strictly increase. -/
  | unsortedTimes
  /-- The last value differs from the first. -/
  | openLoop
  /-- The linear system is singular; `infiniteCondition` when the solver itself
  refused it, otherwise its solution was not finite. -/
  | singular (infiniteCondition : Bool)
  deriving Repr, DecidableEq

/-- The text of a fit error. -/
def FitError.message : FitError → String
  | .lengthMismatch => "spline: times and values differ in length"
  | .tooFewPoints => "spline: at least 3 control points are required"
  | .unsupportedDegree => "spline: degree must be 2 or 3"
  | .unsortedTimes => "spline: times must start at zero and strictly increase"
  | .openLoop => "spline: last value must repeat the first"
  | .singular false => "spline: singular system"
  | .singular true =>
    "spline: singular system: matrix singular or near-singular with condition number +Inf"

/-- The fitted coefficients, by degree. -/
inductive Pieces (α : Type) where
  /-- Curvatures at the knots `0 … n`, the last repeating the first. -/
  | cubic (curvatures : Array α)
  /-- Per segment the slope `b` and half-curvature `c` at its start knot, and
  the midpoints where consecutive parabolas meet. -/
  | quadratic (slopes bends mids : Array α)

/-- A fitted periodic spline. -/
structure Periodic (α : Type) where
  times : Array α
  values : Array α
  pieces : Pieces α

/-- The polynomial degree of the pieces. -/
def Periodic.degree (p : Periodic α) : Nat :=
  match p.pieces with
  | .cubic _ => 3
  | .quadratic .. => 2

/-- The period, which is the last knot time. -/
def Periodic.period (p : Periodic α) : α := p.times.getD (p.times.size - 1) 0

/-- Whether every entry is a finite number. -/
def allFinite (xs : Array α) : Bool := xs.all isFinite

/-- Solves a fitting system with `solve`, turning a refusal or a non-finite solution
into an error. -/
def solveFit (solve : Matrix α → Array α → Option (Array α)) (a : Matrix α) (rhs : Array α) :
    Except FitError (Array α) :=
  match solve a rhs with
  | none => .error (.singular true)
  | some x => if allFinite x then .ok x else .error (.singular false)

/-- The lengths of the segments. -/
def segmentLengths (t : Array α) : Array α :=
  (Array.range (t.size - 1)).map fun i => t.getD (i + 1) 0 - t.getD i 0

/-- The equation of knot `i` added to the cubic system `acc`, with `n` segments of
lengths `h`: `h₋ m₋ + 2(h₋ + h) m + h m₊ = 6 (slope out - slope in)`, its neighbours
taken cyclically. -/
def cubicEquation (n : Nat) (h y : Array α) (acc : Matrix α × Array α) (i : Nat) :
    Matrix α × Array α :=
  let prev := (i + n - 1) % n
  let next := (i + 1) % n
  let hp := h.getD prev 0
  let hi := h.getD i 0
  let a := acc.1.addEntry i prev hp
  let a := a.addEntry i i (2 * (hp + hi))
  let a := a.addEntry i next hi
  let slopeOut := (y.getD (i + 1) 0 - y.getD i 0) / hi
  let slopeIn := (y.getD i 0 - y.getD prev 0) / hp
  (a, acc.2.setIfInBounds i (6 * (slopeOut - slopeIn)))

/-- The cyclic system for the knot curvatures of the cubic spline, one equation per
knot. -/
def cubicSystem (t y : Array α) : Matrix α × Array α :=
  let n := t.size - 1
  (List.range n).foldl (cubicEquation n (segmentLengths t) y)
    (Linear.Matrix.zero n, Array.replicate n 0)

/-- The two equations of midpoint `k` added to the quadratic system `acc`, with `n`
segments: at the midpoint of segment `k` its parabola and that of the next segment
agree in value (row `2k`) and in slope (row `2k + 1`). -/
def midpointEquations (n : Nat) (t y : Array α) (acc : Matrix α × Array α) (k : Nat) :
    Matrix α × Array α :=
  let j := (k + 1) % n
  let half := (t.getD (k + 1) 0 - t.getD k 0) / 2
  let row := 2 * k
  let a := acc.1.addEntry row (2 * k) half
  let a := a.addEntry row (2 * k + 1) (half * half)
  let a := a.addEntry row (2 * j) half
  let a := a.addEntry row (2 * j + 1) (-(half * half))
  let rhs := acc.2.setIfInBounds row (y.getD j 0 - y.getD k 0)
  let row := row + 1
  let a := a.addEntry row (2 * k) 1
  let a := a.addEntry row (2 * k + 1) (2 * half)
  let a := a.addEntry row (2 * j) (-1)
  let a := a.addEntry row (2 * j + 1) (2 * half)
  (a, rhs)

/-- The system for the parabola coefficients of the quadratic spline, two equations
per midpoint. -/
def quadraticSystem (t y : Array α) : Matrix α × Array α :=
  let n := t.size - 1
  (List.range n).foldl (midpointEquations n t y)
    (Linear.Matrix.zero (2 * n), Array.replicate (2 * n) 0)

/-- The checks on the knots, in their order. -/
def checkKnots (t y : Array α) (degree : Int) : Except FitError Unit :=
  if t.size ≠ y.size then .error .lengthMismatch
  else if t.size < 3 then .error .tooFewPoints
  else if degree ≠ 2 ∧ degree ≠ 3 then .error .unsupportedDegree
  else if t.getD 0 0 != 0 then .error .unsortedTimes
  else if !((List.range (t.size - 1)).all fun k => t.getD (k + 1) 0 > t.getD k 0) then
    .error .unsortedTimes
  else if y.getD (y.size - 1) 0 != y.getD 0 0 then .error .openLoop
  else .ok ()

/-- Fits a periodic spline of degree 2 or 3 through the knots, its linear system
solved by `solve`. -/
def Periodic.fitWith (solve : Matrix α → Array α → Option (Array α)) (t y : Array α)
    (degree : Int) : Except FitError (Periodic α) := do
  checkKnots t y degree
  let n := t.size - 1
  if degree = 3 then
    let (a, rhs) := cubicSystem t y
    let m ← solveFit solve a rhs
    return ⟨t, y, .cubic (m.push (m.getD 0 0))⟩
  else
    let mids := (Array.range n).map fun k => (t.getD k 0 + t.getD (k + 1) 0) / 2
    let (a, rhs) := quadraticSystem t y
    let x ← solveFit solve a rhs
    let slopes := (Array.range n).map fun k => x.getD (2 * k) 0
    let bends := (Array.range n).map fun k => x.getD (2 * k + 1) 0
    return ⟨t, y, .quadratic slopes bends mids⟩

/-- Fits a periodic spline of degree 2 or 3 through the knots, solving its system by
elimination with partial pivoting. -/
def Periodic.fit (t y : Array α) (degree : Int) : Except FitError (Periodic α) :=
  Periodic.fitWith solve t y degree

end Airspace.Spline
