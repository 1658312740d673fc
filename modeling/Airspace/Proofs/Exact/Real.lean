import Mathlib.Analysis.SpecialFunctions.Complex.Arg
import Mathlib.Analysis.SpecialFunctions.Log.Basic
import Mathlib.Analysis.SpecialFunctions.Trigonometric.Arctan
import Mathlib.Tactic.NormNum.OfScientific
import Airspace.Scalar.Basic

/-!
# Exact arithmetic

The real numbers as a scalar system. Every operation is exact; the elementary
functions are those of analysis, `atan2 y x` is the argument of `x + y i`, `hypot` the
Euclidean length and `rem` the remainder of the quotient truncated toward zero. Every
value is finite and none is NaN. A factored matrix counts as singular when a pivot of
its upper factor is zero, which is where exact elimination has to stop.

Read in this system, the airspace definitions give the geometry that the binary64
computation approximates, and statements made "over exact real arithmetic" are
statements about them here. Decimal constants of the definitions are read exactly, as
the rationals they spell.

The lemmas below turn the system's operations and numerals into the usual ones on `ℝ`,
so that `ring`, `linarith` and `positivity` see through them.
-/

namespace Airspace

noncomputable instance instScalarReal : Scalar ℝ where
  toOfScientific := inferInstance
  ofNat n := n
  ofInt n := n
  ltDecidable := fun a b => Real.decidableLT a b
  leDecidable := fun a b => Real.decidableLE a b
  isFinite _ := true
  isNaN _ := false
  abs x := |x|
  sqrt := Real.sqrt
  sin := Real.sin
  cos := Real.cos
  tan := Real.tan
  atan := Real.arctan
  atan2 y x := Complex.arg ⟨x, y⟩
  log := Real.log
  hypot p q := Real.sqrt (p ^ 2 + q ^ 2)
  rem x y := x - y * (if 0 ≤ x / y then (⌊x / y⌋ : ℝ) else (⌈x / y⌉ : ℝ))
  factorsSingular _ rows :=
    (List.range rows.size).any fun i => (rows.getD i #[]).getD i 0 == 0

namespace Exact

@[simp] theorem ofNat_zero : (@OfNat.ofNat ℝ 0 (@instOfNatOfScalar ℝ _ 0)) = 0 := by
  change ((0 : ℕ) : ℝ) = 0
  exact Nat.cast_zero

@[simp] theorem ofNat_one : (@OfNat.ofNat ℝ 1 (@instOfNatOfScalar ℝ _ 1)) = 1 := by
  change ((1 : ℕ) : ℝ) = 1
  exact Nat.cast_one

@[simp] theorem ofNat_atLeastTwo (n : ℕ) [n.AtLeastTwo] :
    (@OfNat.ofNat ℝ n (@instOfNatOfScalar ℝ _ n)) = OfNat.ofNat n :=
  rfl

@[simp] theorem scalar_ofNat (n : ℕ) : (Scalar.ofNat n : ℝ) = n := rfl

@[simp] theorem scalar_ofInt (n : ℤ) : (Scalar.ofInt n : ℝ) = n := rfl

@[simp] theorem isFinite_eq (x : ℝ) : Scalar.isFinite x = true := rfl

@[simp] theorem isNaN_eq (x : ℝ) : Scalar.isNaN x = false := rfl

@[simp] theorem sqrt_eq (x : ℝ) : Scalar.sqrt x = Real.sqrt x := rfl

@[simp] theorem sin_eq (x : ℝ) : Scalar.sin x = Real.sin x := rfl

@[simp] theorem cos_eq (x : ℝ) : Scalar.cos x = Real.cos x := rfl

@[simp] theorem atan2_eq (y x : ℝ) : Scalar.atan2 y x = Complex.arg ⟨x, y⟩ := rfl

@[simp] theorem hypot_eq (p q : ℝ) : Scalar.hypot p q = Real.sqrt (p ^ 2 + q ^ 2) := rfl

@[simp] theorem rem_eq (x y : ℝ) :
    Scalar.rem x y = x - y * (if 0 ≤ x / y then (⌊x / y⌋ : ℝ) else (⌈x / y⌉ : ℝ)) :=
  rfl

end Exact

end Airspace
