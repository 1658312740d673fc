import Airspace.Proofs.Linear.Assembly
import Airspace.Spline.Periodic

/-!
# The fitting systems, equation by equation

The two systems of a periodic fit are assembled one knot (cubic) or one midpoint
(quadratic) at a time. Read over exact arithmetic, the assembled system says what the
fit is meant to say:

* `cubicSystem_rowApply`: row `i` of the cubic system applied to curvatures `m` is
  `h₋ m₋ + 2(h₋ + h) m + h m₊`, its neighbours taken cyclically, and its right side is
  `6 (slope out - slope in)`.
* `quadraticSystem_rowApply`: row `2k` of the quadratic system says that the parabolas
  of segment `k` and of the next segment meet in value at the midpoint of segment `k`,
  row `2k + 1` that they meet in slope.

With two segments the neighbours before and after a knot are one knot, so an entry
receives two additions; the rows are stated as sums, which covers that case with the
others. Each statement is the run of a step invariant over the assembly loop.
-/

noncomputable section

namespace Airspace.Spline

open Airspace.Linear Airspace.Exact

theorem getD_segmentLengths {t : Array ℝ} {i : Nat} (hi : i < t.size - 1) :
    (segmentLengths t).getD i 0 = t.getD (i + 1) 0 - t.getD i 0 := by
  simp [segmentLengths, Array.getD_eq_getD_getElem?, hi]

/-! ## The cubic system -/

section Cubic

variable (n : Nat) (h y : Array ℝ)

/-- The left side of knot `i`'s equation at curvatures `m`. -/
def cubicLeft (i : Nat) (m : Nat → ℝ) : ℝ :=
  h.getD ((i + n - 1) % n) 0 * m ((i + n - 1) % n) +
    2 * (h.getD ((i + n - 1) % n) 0 + h.getD i 0) * m i + h.getD i 0 * m ((i + 1) % n)

/-- The right side of knot `i`'s equation: six times the change of slope at the knot. -/
def cubicRight (i : Nat) : ℝ :=
  6 * ((y.getD (i + 1) 0 - y.getD i 0) / h.getD i 0 -
    (y.getD i 0 - y.getD ((i + n - 1) % n) 0) / h.getD ((i + n - 1) % n) 0)

/-- The cubic system after the equations of the knots below `N`: square of size `n`,
those rows and right sides in place and the others still zero. -/
def CubicAssembled (N : Nat) (acc : Linear.Matrix ℝ × Array ℝ) : Prop :=
  acc.1.IsSquare n ∧ acc.2.size = n ∧
    (∀ r < n, acc.2.getD r 0 = if r < N then cubicRight n h y r else 0) ∧
    ∀ r m, acc.1.rowApply r m = if r < N then cubicLeft n h r m else 0

variable {n h y}

theorem cubicEquation_fst (acc : Linear.Matrix ℝ × Array ℝ) (i : Nat) :
    (cubicEquation n h y acc i).1 =
      ((acc.1.addEntry i ((i + n - 1) % n) (h.getD ((i + n - 1) % n) 0)).addEntry i i
        (2 * (h.getD ((i + n - 1) % n) 0 + h.getD i 0))).addEntry i ((i + 1) % n) (h.getD i 0) := by
  simp only [cubicEquation, ofNat_zero]

theorem cubicEquation_snd (acc : Linear.Matrix ℝ × Array ℝ) (i : Nat) :
    (cubicEquation n h y acc i).2 = acc.2.setIfInBounds i (cubicRight n h y i) := by
  simp only [cubicEquation, cubicRight, ofNat_zero]

/-- Assembling knot `N` writes the right side of row `N` and gives that row its three
coefficients, and leaves every other row as it was. -/
theorem CubicAssembled.step {N : Nat} {acc : Linear.Matrix ℝ × Array ℝ} (hN : N < n)
    (hacc : CubicAssembled n h y N acc) :
    CubicAssembled n h y (N + 1) (cubicEquation n h y acc N) := by
  obtain ⟨hsq, hsize, hrhs, hrow⟩ := hacc
  have hprev : (N + n - 1) % n < n := Nat.mod_lt _ (by omega)
  have hnext : (N + 1) % n < n := Nat.mod_lt _ (by omega)
  refine ⟨by simpa [cubicEquation_fst] using hsq, by simp [cubicEquation_snd, hsize],
    fun r hr => ?_, fun r m => ?_⟩
  · rw [cubicEquation_snd, getD_setIfInBounds, hsize, hrhs r hr]
    by_cases hrN : r = N
    · subst hrN
      simp [hN]
    · have : ¬ N = r := Ne.symm hrN
      by_cases hlt : r < N
      · simp [this, hlt, show r < N + 1 by omega]
      · simp [this, hlt, show ¬ r < N + 1 by omega]
  · simp only [cubicEquation_fst, Linear.Matrix.rowApply_addEntry, Linear.Matrix.size_addEntry,
      Linear.Matrix.isSquare_addEntry_iff, hsq.size_eq, hsq, hN, hprev, hnext, hrow r m]
    by_cases hrN : r = N
    · subst hrN
      simp only [lt_irrefl, if_false, if_true, zero_add, cubicLeft, Nat.lt_succ_self]
    · by_cases hlt : r < N
      · simp [hrN, hlt, show r < N + 1 by omega]
      · simp [hrN, hlt, show ¬ r < N + 1 by omega]

/-- The assembly loop over the first `N` knots keeps the invariant. -/
theorem CubicAssembled.foldl {init : Linear.Matrix ℝ × Array ℝ}
    (hinit : CubicAssembled n h y 0 init) {N : Nat} (hN : N ≤ n) :
    CubicAssembled n h y N ((List.range N).foldl (cubicEquation n h y) init) := by
  induction N with
  | zero => exact hinit
  | succ N ih =>
    rw [List.range_succ, List.foldl_append, List.foldl_cons, List.foldl_nil]
    exact (ih (by omega)).step (by omega)

end Cubic

/-- Over exact arithmetic the cubic system of knots `t`, `y` has one row per segment, and
row `i` is knot `i`'s equation between the curvatures. -/
theorem cubicSystem_assembled (t y : Array ℝ) :
    CubicAssembled (t.size - 1) (segmentLengths t) y (t.size - 1) (cubicSystem t y) := by
  refine CubicAssembled.foldl ⟨Linear.Matrix.isSquare_zero _, by simp, fun r hr => ?_, fun r m => ?_⟩ le_rfl
  · simp [Array.getD_eq_getD_getElem?, hr]
  · simp [Linear.Matrix.rowApply_zero]

/-! ## The quadratic system -/

section Quadratic

variable (n : Nat) (t y : Array ℝ)

/-- The left side of row `r` of the quadratic system at coefficients `x`, with
`k = r / 2`, `j` the segment after `k` and `u` half the length of segment `k`: for even
`r`, the value of parabola `k` at `+u` less that of parabola `j` at `-u`, less
`yⱼ - yₖ`; for odd `r`, the slope of parabola `k` at `+u` less that of parabola `j` at
`-u`. -/
def midpointLeft (r : Nat) (x : Nat → ℝ) : ℝ :=
  let k := r / 2
  let j := (k + 1) % n
  let u := (t.getD (k + 1) 0 - t.getD k 0) / 2
  if r % 2 = 0 then u * x (2 * k) + u * u * x (2 * k + 1) + u * x (2 * j) + -(u * u) * x (2 * j + 1)
  else x (2 * k) + 2 * u * x (2 * k + 1) + -1 * x (2 * j) + 2 * u * x (2 * j + 1)

/-- The right side of row `r` of the quadratic system. -/
def midpointRight (r : Nat) : ℝ :=
  if r % 2 = 0 then y.getD ((r / 2 + 1) % n) 0 - y.getD (r / 2) 0 else 0

/-- The quadratic system after the equations of the midpoints below `N`: square of size
`2n`, those rows and right sides in place and the others still zero. -/
def QuadraticAssembled (N : Nat) (acc : Linear.Matrix ℝ × Array ℝ) : Prop :=
  acc.1.IsSquare (2 * n) ∧ acc.2.size = 2 * n ∧
    (∀ r < 2 * n, acc.2.getD r 0 = if r < 2 * N then midpointRight n y r else 0) ∧
    ∀ r m, acc.1.rowApply r m = if r < 2 * N then midpointLeft n t r m else 0

variable {n t y}

theorem midpointEquations_fst (acc : Linear.Matrix ℝ × Array ℝ) (k : Nat) :
    let j := (k + 1) % n
    let u := (t.getD (k + 1) 0 - t.getD k 0) / 2
    (midpointEquations n t y acc k).1 =
      (((((((acc.1.addEntry (2 * k) (2 * k) u).addEntry (2 * k) (2 * k + 1) (u * u)).addEntry
        (2 * k) (2 * j) u).addEntry (2 * k) (2 * j + 1) (-(u * u))).addEntry (2 * k + 1) (2 * k)
        1).addEntry (2 * k + 1) (2 * k + 1) (2 * u)).addEntry (2 * k + 1) (2 * j) (-1)).addEntry
        (2 * k + 1) (2 * j + 1) (2 * u) := by
  simp only [midpointEquations, ofNat_zero, ofNat_one]

theorem midpointEquations_snd (acc : Linear.Matrix ℝ × Array ℝ) (k : Nat) :
    (midpointEquations n t y acc k).2 = acc.2.setIfInBounds (2 * k) (midpointRight n y (2 * k)) := by
  simp [midpointEquations, midpointRight]

/-- Assembling midpoint `N` writes the right side of row `2N`, leaving that of row `2N + 1` at
zero, and gives rows `2N` and `2N + 1` their four coefficients each; every other row is left as it
was. -/
theorem QuadraticAssembled.step {N : Nat} {acc : Linear.Matrix ℝ × Array ℝ} (hN : N < n)
    (hacc : QuadraticAssembled n t y N acc) :
    QuadraticAssembled n t y (N + 1) (midpointEquations n t y acc N) := by
  obtain ⟨hsq, hsize, hrhs, hrow⟩ := hacc
  have hj : (N + 1) % n < n := Nat.mod_lt _ (by omega)
  have hk₀ : 2 * N < 2 * n := by omega
  have hk₁ : 2 * N + 1 < 2 * n := by omega
  have hj₀ : 2 * ((N + 1) % n) < 2 * n := by omega
  have hj₁ : 2 * ((N + 1) % n) + 1 < 2 * n := by omega
  refine ⟨by simpa [midpointEquations_fst] using hsq, by simp [midpointEquations_snd, hsize],
    fun r hr => ?_, fun r m => ?_⟩
  · rw [midpointEquations_snd, getD_setIfInBounds, hsize, hrhs r hr]
    by_cases hr₀ : r = 2 * N
    · subst hr₀
      simp [hk₀]
    · have : ¬ 2 * N = r := Ne.symm hr₀
      by_cases hr₁ : r = 2 * N + 1
      · subst hr₁
        simp [midpointRight, Nat.add_mod]
      · by_cases hlt : r < 2 * N
        · simp [this, hlt, show r < 2 * (N + 1) by omega]
        · simp [this, hlt, show ¬ r < 2 * (N + 1) by omega]
  · simp only [midpointEquations_fst, Linear.Matrix.rowApply_addEntry,
      Linear.Matrix.size_addEntry, Linear.Matrix.isSquare_addEntry_iff, hsq.size_eq, hsq,
      hk₀, hk₁, hj₀, hj₁, hrow r m]
    by_cases hr₀ : r = 2 * N
    · subst hr₀
      have hk : 2 * N / 2 = N := by omega
      have hpar : 2 * N % 2 = 0 := by omega
      simp only [midpointLeft, hk, hpar, lt_irrefl, if_true, if_false, zero_add,
        show 2 * N ≠ 2 * N + 1 by omega, show 2 * N < 2 * (N + 1) by omega]
      ring
    · by_cases hr₁ : r = 2 * N + 1
      · subst hr₁
        have hk : (2 * N + 1) / 2 = N := by omega
        have hpar : (2 * N + 1) % 2 = 1 := by omega
        simp only [midpointLeft, hk, hpar, if_true, if_false, zero_add, add_zero,
          show ¬ 2 * N + 1 < 2 * N by omega, show 2 * N + 1 ≠ 2 * N by omega,
          show 2 * N + 1 < 2 * (N + 1) by omega, show (1 : Nat) ≠ 0 by omega]
        ring
      · by_cases hlt : r < 2 * N
        · simp [hr₀, hr₁, hlt, show r < 2 * (N + 1) by omega]
        · simp [hr₀, hr₁, hlt, show ¬ r < 2 * (N + 1) by omega]

/-- The assembly loop over the first `N` midpoints keeps the invariant. -/
theorem QuadraticAssembled.foldl {init : Linear.Matrix ℝ × Array ℝ}
    (hinit : QuadraticAssembled n t y 0 init) {N : Nat} (hN : N ≤ n) :
    QuadraticAssembled n t y N ((List.range N).foldl (midpointEquations n t y) init) := by
  induction N with
  | zero => exact hinit
  | succ N ih =>
    rw [List.range_succ, List.foldl_append, List.foldl_cons, List.foldl_nil]
    exact (ih (by omega)).step (by omega)

end Quadratic

/-- Over exact arithmetic the quadratic system of knots `t`, `y` has two rows per
segment: row `2k` equates the values, row `2k + 1` the slopes, of the parabolas of
segment `k` and of the next one at the midpoint of segment `k`. -/
theorem quadraticSystem_assembled (t y : Array ℝ) :
    QuadraticAssembled (t.size - 1) t y (t.size - 1) (quadraticSystem t y) := by
  refine QuadraticAssembled.foldl ⟨Linear.Matrix.isSquare_zero _, by simp, fun r hr => ?_,
    fun r m => ?_⟩ le_rfl
  · simp [Array.getD_eq_getD_getElem?, hr]
  · simp [Linear.Matrix.rowApply_zero]

/-! ## What a solver returns -/

variable {solve : Linear.Matrix ℝ → Array ℝ → Option (Array ℝ)} (hsolve : SolvesSystems solve)
include hsolve

/-- Curvatures returned for the cubic system satisfy the equation of every knot. -/
theorem cubicSystem_solution {t y m : Array ℝ}
    (hm : solve (cubicSystem t y).1 (cubicSystem t y).2 = some m) :
    m.size = t.size - 1 ∧ ∀ i < t.size - 1,
      cubicLeft (t.size - 1) (segmentLengths t) i (fun j => m.getD j 0) =
        cubicRight (t.size - 1) (segmentLengths t) y i := by
  obtain ⟨hsq, _, hrhs, hrow⟩ := cubicSystem_assembled t y
  obtain ⟨hsize, hsat⟩ := hsolve _ _ _ hm
  refine ⟨hsize.trans hsq.size_eq, fun i hi => ?_⟩
  have hrow' := hrow i fun j => m.getD j 0
  rw [if_pos hi] at hrow'
  rw [← hrow', hsat i (hsq.size_eq ▸ hi), hrhs i hi, if_pos hi]

/-- Coefficients returned for the quadratic system satisfy both equations of every
midpoint. -/
theorem quadraticSystem_solution {t y x : Array ℝ}
    (hx : solve (quadraticSystem t y).1 (quadraticSystem t y).2 = some x) :
    x.size = 2 * (t.size - 1) ∧ ∀ r < 2 * (t.size - 1),
      midpointLeft (t.size - 1) t r (fun j => x.getD j 0) = midpointRight (t.size - 1) y r := by
  obtain ⟨hsq, _, hrhs, hrow⟩ := quadraticSystem_assembled t y
  obtain ⟨hsize, hsat⟩ := hsolve _ _ _ hx
  refine ⟨hsize.trans hsq.size_eq, fun r hr => ?_⟩
  have hrow' := hrow r fun j => x.getD j 0
  rw [if_pos hr] at hrow'
  rw [← hrow', hsat r (hsq.size_eq ▸ hr), hrhs r hr, if_pos hr]

end Airspace.Spline

end
