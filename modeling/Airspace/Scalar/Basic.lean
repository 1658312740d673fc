/-!
# Scalars: the arithmetic of the airspace geometry

Distances, trajectories and splines are computed in a number system given as a
`Scalar`: the field operations, comparisons, and the elementary functions the
geometry uses. The program runs on binary64 values, where every operation rounds
on its own; the same definitions read over the real numbers give the exact
geometry that the computed one approximates.

Besides the functions, a scalar system says which values count as finite and
when a factored matrix counts as singular, the two places where a computation
refuses its input.
-/

namespace Airspace

/-- A number system in which the airspace geometry is computed. -/
class Scalar (α : Type) extends Add α, Sub α, Mul α, Div α, Neg α, LT α, LE α, BEq α,
    OfScientific α where
  /-- The natural number `n` in the system. -/
  ofNat : Nat → α
  /-- The integer `n` in the system. -/
  ofInt : Int → α
  ltDecidable : DecidableRel (fun a b : α => a < b)
  leDecidable : DecidableRel (fun a b : α => a ≤ b)
  /-- Whether a value is a number and not an infinity. -/
  isFinite : α → Bool
  /-- Whether a value is not a number at all. -/
  isNaN : α → Bool
  abs : α → α
  sqrt : α → α
  sin : α → α
  cos : α → α
  tan : α → α
  atan : α → α
  /-- The angle of the vector `(x, y)`, taking `y` first. -/
  atan2 : α → α → α
  log : α → α
  /-- The length of the vector `(p, q)`. -/
  hypot : α → α → α
  /-- The remainder of division with the quotient truncated toward zero. -/
  rem : α → α → α
  /-- Whether a matrix with this largest absolute row sum, factored into these
  rows (`L` below the diagonal, `U` on and above it), counts as singular. -/
  factorsSingular : α → Array (Array α) → Bool

instance Scalar.decLt {α : Type} [Scalar α] : DecidableRel (fun a b : α => a < b) :=
  Scalar.ltDecidable

instance Scalar.decLe {α : Type} [Scalar α] : DecidableRel (fun a b : α => a ≤ b) :=
  Scalar.leDecidable

instance (priority := low) {α : Type} [Scalar α] {n : Nat} : OfNat α n := ⟨Scalar.ofNat n⟩

end Airspace
