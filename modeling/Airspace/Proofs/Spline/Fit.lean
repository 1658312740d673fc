import Mathlib.LinearAlgebra.Matrix.Gershgorin
import Airspace.Proofs.Spline.Systems
import Airspace.Proofs.Spline.Pieces

/-!
# Periodic fits over exact arithmetic

Which knots a periodic fit accepts, what a successful fit returns, and when it
succeeds.

* `checkKnots_eq_ok`: the checks accept exactly the valid knots (`KnotsValid`) with degree
  2 or 3.
* `fitWith_eq_ok`: a successful fit returns the cubic spline of the curvatures its solver
  returned (`cubicSpline`), or the quadratic spline of the returned slopes and bends
  (`quadraticSpline`).
* `cubicSystem_det_ne_zero`, `quadraticSystem_det_ne_zero`: the cubic system of valid
  knots is strictly diagonally dominant, hence nonsingular. The quadratic system is not
  dominant, but its homogeneous equations reduce to a dominant cyclic system in the slopes
  at the knots (`quadraticSystem_kernel`), so it is nonsingular too. With a solver that
  solves nonsingular systems the fit then succeeds (`fitWith_cubic_isOk`,
  `fitWith_quadratic_isOk`).
-/

namespace Airspace.Spline

open Airspace.Exact Airspace.Linear

/-! ## Accepted knots and successful fits -/

/-- Knots that a periodic fit accepts: as many times as values, at least three, times
from zero strictly increasing, and the last value repeating the first. -/
structure KnotsValid (t y : Array ℝ) : Prop where
  size_eq : t.size = y.size
  three_le : 3 ≤ t.size
  start : t.getD 0 0 = 0
  increasing : ∀ k < t.size - 1, t.getD k 0 < t.getD (k + 1) 0
  closed : y.getD (t.size - 1) 0 = y.getD 0 0

/-- Over exact arithmetic the checks accept exactly the valid knots with degree 2 or 3. Each refusal
contradicts one field of `KnotsValid`. -/
theorem checkKnots_eq_ok {t y : Array ℝ} {degree : Int} :
    checkKnots t y degree = .ok () ↔ KnotsValid t y ∧ (degree = 2 ∨ degree = 3) := by
  have hall : ((List.range (t.size - 1)).all fun k => t.getD (k + 1) 0 > t.getD k 0) = true ↔
      ∀ k < t.size - 1, t.getD k 0 < t.getD (k + 1) 0 := by
    simp
  unfold checkKnots
  simp only [ofNat_zero]
  split_ifs with hsize hthree hdeg hstart hinc hclosed
  · simp only [false_iff]
    exact fun h => hsize h.1.size_eq
  · simp only [false_iff]
    exact fun h => absurd h.1.three_le (by omega)
  · simp only [false_iff]
    exact fun h => by omega
  · simp only [false_iff]
    exact fun h => by simp [h.1.start] at hstart
  · simp only [false_iff]
    intro h
    rw [hall.mpr h.1.increasing] at hinc
    exact absurd hinc (by decide)
  · simp only [false_iff]
    intro h
    have hc := h.1.closed
    rw [not_not.mp hsize] at hc
    simp [hc] at hclosed
  · simp only [true_iff]
    have hy : y.getD (y.size - 1) 0 = y.getD 0 0 := by simpa using hclosed
    refine ⟨⟨not_not.mp hsize, by omega, by simpa using hstart, hall.mp (by simpa using hinc), ?_⟩,
      by omega⟩
    rw [not_not.mp hsize]
    exact hy

theorem bind_eq_ok {ε α β : Type} {x : Except ε α} {f : α → Except ε β} {b : β}
    (h : (x >>= f) = .ok b) : ∃ a, x = .ok a ∧ f a = .ok b := by
  cases x with
  | error e => cases h
  | ok a => exact ⟨a, rfl, h⟩

theorem solve_eq_some_of_solveFit {solve : Linear.Matrix ℝ → Array ℝ → Option (Array ℝ)}
    {a : Linear.Matrix ℝ} {rhs x : Array ℝ} (h : solveFit solve a rhs = .ok x) :
    solve a rhs = some x := by
  unfold solveFit at h
  split at h
  · cases h
  · split at h
    · cases h
      assumption
    · cases h

/-- The cubic spline through knots `t`, `y` with knot curvatures `m`, the curvature of the
last knot repeating that of the first. -/
noncomputable def cubicSpline (t y m : Array ℝ) : Periodic ℝ :=
  ⟨t, y, .cubic (m.push (m.getD 0 0))⟩

/-- The quadratic spline through knots `t`, `y` whose coefficients `x` interleave the
slope and the bend of each knot's parabola; its pieces meet at the segment midpoints. -/
noncomputable def quadraticSpline (t y x : Array ℝ) : Periodic ℝ :=
  ⟨t, y, .quadratic ((Array.range (t.size - 1)).map fun k => x.getD (2 * k) 0)
    ((Array.range (t.size - 1)).map fun k => x.getD (2 * k + 1) 0)
    ((Array.range (t.size - 1)).map fun k => (t.getD k 0 + t.getD (k + 1) 0) / 2)⟩

section Constructed

variable (t y z : Array ℝ)

@[simp] theorem cubicSpline_times : (cubicSpline t y z).times = t := rfl

@[simp] theorem cubicSpline_values : (cubicSpline t y z).values = y := rfl

@[simp] theorem cubicSpline_degree : (cubicSpline t y z).degree = 3 := rfl

@[simp] theorem quadraticSpline_times : (quadraticSpline t y z).times = t := rfl

@[simp] theorem quadraticSpline_values : (quadraticSpline t y z).values = y := rfl

@[simp] theorem quadraticSpline_degree : (quadraticSpline t y z).degree = 2 := rfl

end Constructed

/-- A successful fit checked its knots, and its pieces are built from what the solver
returned for the cubic system (degree 3) or the quadratic system (otherwise). -/
theorem fitWith_eq_ok {solve : Linear.Matrix ℝ → Array ℝ → Option (Array ℝ)} {t y : Array ℝ}
    {degree : Int} {s : Periodic ℝ} (h : Periodic.fitWith solve t y degree = .ok s) :
    checkKnots t y degree = .ok () ∧
      ((degree = 3 ∧ ∃ m, solve (cubicSystem t y).1 (cubicSystem t y).2 = some m ∧
          s = cubicSpline t y m) ∨
        (degree ≠ 3 ∧ ∃ x, solve (quadraticSystem t y).1 (quadraticSystem t y).2 = some x ∧
          s = quadraticSpline t y x)) := by
  obtain ⟨u, hc, h⟩ := bind_eq_ok h
  refine ⟨hc, ?_⟩
  by_cases hd : degree = 3
  · rw [if_pos hd] at h
    obtain ⟨m, hm, h⟩ := bind_eq_ok h
    cases h
    exact Or.inl ⟨hd, m, solve_eq_some_of_solveFit hm, by simp [cubicSpline]⟩
  · rw [if_neg hd] at h
    obtain ⟨x, hx, h⟩ := bind_eq_ok h
    cases h
    exact Or.inr ⟨hd, x, solve_eq_some_of_solveFit hx, by simp [quadraticSpline]⟩


/-! ## Increasing breakpoints -/

section Increasing

variable {β : Nat → ℝ} {N : Nat} (hβ : ∀ j < N, β j < β (j + 1))
include hβ

theorem lt_of_succ_lt {a b : Nat} (hab : a < b) (hb : b ≤ N) : β a < β b := by
  induction b with
  | zero => omega
  | succ b ih =>
    rcases Nat.lt_succ_iff_lt_or_eq.mp hab with hlt | rfl
    · exact (ih hlt (by omega)).trans (hβ b (by omega))
    · exact hβ a (by omega)

/-- In increasing breakpoints, a point lies in at most one interval `[β j, β (j + 1))`,
the last interval taken closed. -/
theorem index_unique {x : ℝ} {j k : Nat} (hj : j < N) (hjx : β j ≤ x)
    (hxj : x < β (j + 1) ∨ j + 1 = N) (hk : k < N) (hkx : β k ≤ x)
    (hxk : x < β (k + 1) ∨ k + 1 = N) : j = k := by
  by_contra hne
  rcases Nat.lt_or_gt_of_ne hne with hlt | hlt
  · have hle : β (j + 1) ≤ β k := by
      rcases Nat.lt_or_ge (j + 1) k with h | h
      · exact (lt_of_succ_lt hβ h (by omega)).le
      · rw [show j + 1 = k by omega]
    rcases hxj with hxj | hxj
    · exact absurd (hle.trans hkx) (not_le.mpr hxj)
    · omega
  · have hle : β (k + 1) ≤ β j := by
      rcases Nat.lt_or_ge (k + 1) j with h | h
      · exact (lt_of_succ_lt hβ h (by omega)).le
      · rw [show k + 1 = j by omega]
    rcases hxk with hxk | hxk
    · exact absurd (hle.trans hjx) (not_le.mpr hxk)
    · omega

end Increasing


/-! ## Valid knots -/

namespace KnotsValid

variable {t y : Array ℝ} (hv : KnotsValid t y)
include hv

theorem two_le : 2 ≤ t.size - 1 := by
  have := hv.three_le
  omega

theorem length_ne_zero {k : Nat} (hk : k < t.size - 1) : t.getD (k + 1) 0 - t.getD k 0 ≠ 0 :=
  sub_ne_zero.mpr (hv.increasing k hk).ne'

theorem lt_of_lt {a b : Nat} (hab : a < b) (hb : b ≤ t.size - 1) : t.getD a 0 < t.getD b 0 :=
  lt_of_succ_lt (β := fun k => t.getD k 0) hv.increasing hab hb

theorem le_of_le {a b : Nat} (hab : a ≤ b) (hb : b ≤ t.size - 1) : t.getD a 0 ≤ t.getD b 0 := by
  rcases Nat.lt_or_eq_of_le hab with h | rfl
  · exact (hv.lt_of_lt h hb).le
  · exact le_rfl

/-- Every knot time lies in `[0, tₙ]`. -/
theorem mem_domain {k : Nat} (hk : k < t.size) :
    0 ≤ t.getD k 0 ∧ t.getD k 0 ≤ t.getD (t.size - 1) 0 := by
  have hfirst := hv.le_of_le (Nat.zero_le k) (by omega)
  rw [hv.start] at hfirst
  exact ⟨hfirst, hv.le_of_le (by omega) le_rfl⟩

end KnotsValid

theorem Periodic.period_eq (s : Periodic ℝ) : s.period = s.times.getD (s.times.size - 1) 0 := by
  simp only [Periodic.period, ofNat_zero]


theorem getD_map_range {f : Nat → ℝ} {n k : Nat} (hk : k < n) :
    ((Array.range n).map f).getD k 0 = f k := by
  simp [Array.getD_eq_getD_getElem?, hk]

/-! ## Nonsingular systems -/

section Nonsingular

variable {t y : Array ℝ} (hv : KnotsValid t y)
include hv

theorem KnotsValid.segmentLength_pos {k : Nat} (hk : k < t.size - 1) :
    0 < (segmentLengths t).getD k 0 := by
  rw [getD_segmentLengths hk]
  exact sub_pos.mpr (hv.increasing k hk)

omit hv in
/-- Entry `(i, j)` of the cubic system: the length before knot `i` towards the knot before,
twice the two lengths on the diagonal, the length after towards the knot after; entries of
neighbours that coincide add up. -/
theorem cubicSystem_entry {i j : Nat} (hi : i < t.size - 1) (hj : j < t.size - 1) :
    (cubicSystem t y).1.entry i j =
      (if (i + (t.size - 1) - 1) % (t.size - 1) = j
        then (segmentLengths t).getD ((i + (t.size - 1) - 1) % (t.size - 1)) 0 else 0) +
      (if i = j then 2 * ((segmentLengths t).getD ((i + (t.size - 1) - 1) % (t.size - 1)) 0 +
        (segmentLengths t).getD i 0) else 0) +
      (if (i + 1) % (t.size - 1) = j then (segmentLengths t).getD i 0 else 0) := by
  obtain ⟨hsq, -, -, hrow⟩ := cubicSystem_assembled t y
  rw [Linear.Matrix.entry_eq_rowApply _ i (by rw [hsq.size_eq]; exact hj), hrow, if_pos hi,
    cubicLeft]
  simp only [mul_ite, mul_one, mul_zero]

omit hv in
/-- In a cycle of at least two knots the knot before a knot is another knot. -/
theorem prev_ne_self {n k : Nat} (hn : 2 ≤ n) (hk : k < n) : (k + n - 1) % n ≠ k := by
  rcases Nat.eq_zero_or_pos k with rfl | hpos
  · rw [Nat.zero_add, Nat.mod_eq_of_lt (by omega)]
    omega
  · rw [show k + n - 1 = k - 1 + n by omega, Nat.add_mod_right, Nat.mod_eq_of_lt (by omega)]
    omega

omit hv in
/-- In a cycle of at least two knots the knot after a knot is another knot. -/
theorem next_ne_self {n k : Nat} (hn : 2 ≤ n) (hk : k < n) : (k + 1) % n ≠ k := by
  by_cases hlast : k + 1 < n
  · rw [Nat.mod_eq_of_lt hlast]
    omega
  · rw [show k + 1 = n by omega, Nat.mod_self]
    omega

omit hv in
theorem sum_fin_ite_eq {N p : Nat} (hp : p < N) (c : ℝ) :
    ∑ j : Fin N, (if p = (j : Nat) then c else 0) = c := by
  rw [Fin.sum_univ_eq_sum_range (fun j => if p = j then c else 0) N, Finset.sum_ite_eq,
    if_pos (Finset.mem_range.mpr hp)]

/-- The cubic system of valid knots is strictly diagonally dominant: the diagonal entry is
twice the lengths on both sides of the knot, and off the diagonal only the two neighbours' columns
are nonzero, adding up to those lengths. So it is nonsingular. -/
theorem cubicSystem_det_ne_zero : (toMatrix (cubicSystem t y).1).det ≠ 0 := by
  obtain ⟨hsq, -, -, -⟩ := cubicSystem_assembled t y
  have hn := hv.two_le
  apply det_ne_zero_of_sum_row_lt_diag
  intro k
  have hk : (k : Nat) < t.size - 1 := hsq.size_eq ▸ k.isLt
  have hprev : (k + (t.size - 1) - 1) % (t.size - 1) < t.size - 1 := Nat.mod_lt _ (by omega)
  have hnext : (k + 1) % (t.size - 1) < t.size - 1 := Nat.mod_lt _ (by omega)
  have hbefore := hv.segmentLength_pos hprev
  have hafter := hv.segmentLength_pos hk
  have hdiag : ‖toMatrix (cubicSystem t y).1 k k‖ =
      2 * ((segmentLengths t).getD ((k + (t.size - 1) - 1) % (t.size - 1)) 0 +
        (segmentLengths t).getD k 0) := by
    rw [toMatrix, Matrix.of_apply, cubicSystem_entry hk hk, if_neg (prev_ne_self hn hk),
      if_pos rfl, if_neg (next_ne_self hn hk), zero_add, add_zero, Real.norm_eq_abs,
      abs_of_pos (by positivity)]
  have hoff : ∀ j ∈ Finset.univ.erase k, ‖toMatrix (cubicSystem t y).1 k j‖ =
      (if (k + (t.size - 1) - 1) % (t.size - 1) = (j : Nat)
        then (segmentLengths t).getD ((k + (t.size - 1) - 1) % (t.size - 1)) 0 else 0) +
      (if (k + 1) % (t.size - 1) = (j : Nat) then (segmentLengths t).getD k 0 else 0) := by
    intro j hj
    have hjk : (k : Nat) ≠ j := fun h => (Finset.mem_erase.mp hj).1 (Fin.ext h.symm)
    rw [toMatrix, Matrix.of_apply, cubicSystem_entry hk (hsq.size_eq ▸ j.isLt), if_neg hjk,
      add_zero, Real.norm_eq_abs, abs_of_nonneg]
    exact add_nonneg (by split_ifs <;> linarith) (by split_ifs <;> linarith)
  calc ∑ j ∈ Finset.univ.erase k, ‖toMatrix (cubicSystem t y).1 k j‖
      = ∑ j ∈ Finset.univ.erase k,
          ((if (k + (t.size - 1) - 1) % (t.size - 1) = (j : Nat)
            then (segmentLengths t).getD ((k + (t.size - 1) - 1) % (t.size - 1)) 0 else 0) +
          (if (k + 1) % (t.size - 1) = (j : Nat) then (segmentLengths t).getD k 0 else 0)) :=
        Finset.sum_congr rfl hoff
    _ ≤ ∑ j : Fin (cubicSystem t y).1.size,
          ((if (k + (t.size - 1) - 1) % (t.size - 1) = (j : Nat)
            then (segmentLengths t).getD ((k + (t.size - 1) - 1) % (t.size - 1)) 0 else 0) +
          (if (k + 1) % (t.size - 1) = (j : Nat) then (segmentLengths t).getD k 0 else 0)) :=
        Finset.sum_le_sum_of_subset_of_nonneg (Finset.erase_subset _ _) fun _ _ _ =>
          add_nonneg (by split_ifs <;> linarith) (by split_ifs <;> linarith)
    _ = (segmentLengths t).getD ((k + (t.size - 1) - 1) % (t.size - 1)) 0 +
          (segmentLengths t).getD k 0 := by
        rw [Finset.sum_add_distrib, sum_fin_ite_eq (hsq.size_eq ▸ hprev),
          sum_fin_ite_eq (hsq.size_eq ▸ hnext)]
    _ < ‖toMatrix (cubicSystem t y).1 k k‖ := by
        rw [hdiag]
        linarith

omit hv in
/-- A vector of the unknowns of a system read at every natural number, zero past the last. -/
noncomputable def extendByZero {N : Nat} (v : Fin N → ℝ) (c : Nat) : ℝ :=
  if h : c < N then v ⟨c, h⟩ else 0

omit hv in
/-- The matrix of a system applied to a vector is each row applied to it. -/
theorem mulVec_toMatrix (a : Linear.Matrix ℝ) (v : Fin a.size → ℝ) (i : Fin a.size) :
    (toMatrix a).mulVec v i = a.rowApply i (extendByZero v) := by
  rw [Linear.Matrix.rowApply, ← Fin.sum_univ_eq_sum_range]
  simp [Matrix.mulVec, dotProduct, toMatrix, extendByZero]

omit hv in
/-- In a cycle of `n` knots the knot after the one before knot `k` is `k` again. -/
theorem next_prev {n k : Nat} (hk : k < n) : ((k + n - 1) % n + 1) % n = k := by
  rcases Nat.eq_zero_or_pos k with rfl | hpos
  · rw [Nat.zero_add, Nat.mod_eq_of_lt (show n - 1 < n by omega), Nat.sub_add_cancel hk,
      Nat.mod_self]
  · have h : (k + n - 1) % n = k - 1 := by
      rw [show k + n - 1 = k - 1 + n by omega, Nat.add_mod_right]
      exact Nat.mod_eq_of_lt (by omega)
    rw [h, Nat.sub_add_cancel hpos, Nat.mod_eq_of_lt hk]

omit hv in
/-- A cyclic system in which the coefficient of each equation's own unknown outweighs those
of its two neighbours together has only the zero solution: at an unknown of largest size the
equation cannot balance unless that size is zero. The largest size is then zero, and with it every
other. -/
theorem eq_zero_of_dominant {n : Nat} {z : Nat → ℝ} {p q : Nat → Nat} {d e f : Nat → ℝ}
    (hp : ∀ k < n, p k < n) (hq : ∀ k < n, q k < n) (hd : ∀ k < n, |e k| + |f k| < d k)
    (h : ∀ k < n, d k * z k + e k * z (p k) + f k * z (q k) = 0) : ∀ k < n, z k = 0 := by
  intro k hk
  obtain ⟨m, hm, hmax⟩ :=
    (Finset.range n).exists_max_image (fun j => |z j|) ⟨k, Finset.mem_range.mpr hk⟩
  have hm' := Finset.mem_range.mp hm
  have hdm := hd m hm'
  have hdpos : 0 < d m := lt_of_le_of_lt (by positivity) hdm
  have hbal : d m * z m = -(e m * z (p m) + f m * z (q m)) := by linarith [h m hm']
  have hbound : d m * |z m| ≤ (|e m| + |f m|) * |z m| :=
    calc d m * |z m| = |e m * z (p m) + f m * z (q m)| := by
          rw [← abs_of_pos hdpos, ← abs_mul, hbal, abs_neg]
      _ ≤ |e m| * |z (p m)| + |f m| * |z (q m)| := by
          rw [← abs_mul, ← abs_mul]
          exact abs_add_le _ _
      _ ≤ |e m| * |z m| + |f m| * |z m| := by
          exact add_le_add
            (mul_le_mul_of_nonneg_left (hmax _ (Finset.mem_range.mpr (hp m hm'))) (abs_nonneg _))
            (mul_le_mul_of_nonneg_left (hmax _ (Finset.mem_range.mpr (hq m hm'))) (abs_nonneg _))
      _ = (|e m| + |f m|) * |z m| := by ring
  have hzero : |z m| = 0 :=
    le_antisymm (by nlinarith [abs_nonneg (z m)]) (abs_nonneg _)
  exact abs_eq_zero.mp (le_antisymm ((hmax k (Finset.mem_range.mpr hk)).trans hzero.le)
    (abs_nonneg _))

omit hv in
/-- Half the length of segment `k`: how far its midpoint lies from either of its knots. -/
noncomputable def halfLength (t : Array ℝ) (k : Nat) : ℝ := (t.getD (k + 1) 0 - t.getD k 0) / 2

theorem KnotsValid.halfLength_pos {k : Nat} (hk : k < t.size - 1) : 0 < halfLength t k := by
  unfold halfLength
  linarith [hv.increasing k hk]

omit hv in
/-- Row `2k` of the quadratic system: the values of parabola `k` and of the next one at the
midpoint of segment `k`. -/
theorem midpointLeft_even (n k : Nat) (x : Nat → ℝ) :
    midpointLeft n t (2 * k) x = halfLength t k *
      (x (2 * k) + halfLength t k * x (2 * k + 1) + x (2 * ((k + 1) % n)) -
        halfLength t k * x (2 * ((k + 1) % n) + 1)) := by
  have hk : 2 * k / 2 = k := by omega
  simp only [midpointLeft, hk, Nat.mul_mod_right, if_true, halfLength]
  ring

omit hv in
/-- Row `2k + 1` of the quadratic system: their slopes there. -/
theorem midpointLeft_odd (n k : Nat) (x : Nat → ℝ) :
    midpointLeft n t (2 * k + 1) x = x (2 * k) + 2 * halfLength t k * x (2 * k + 1) -
      x (2 * ((k + 1) % n)) + 2 * halfLength t k * x (2 * ((k + 1) % n) + 1) := by
  have hk : (2 * k + 1) / 2 = k := by omega
  have hpar : (2 * k + 1) % 2 = 1 := by omega
  simp only [midpointLeft, hk, hpar, one_ne_zero, if_false, halfLength]
  ring

/-- Coefficients that satisfy the homogeneous equations of every midpoint are zero. The two
equations of a midpoint give the bends of both parabolas meeting there in terms of their
slopes `b` at the knots; equating the two expressions of each bend, the bend of parabola `k` seen
from the midpoint after it and from the one before it, leaves
`3 (u₋ + u) bₖ + u bₖ₋₁ + u₋ bₖ₊₁ = 0`, with `u₋` and `u` the half lengths on both sides of
knot `k`. That cyclic system is strictly dominant, so the slopes vanish, and then the bends. -/
theorem quadraticSystem_kernel {x : Nat → ℝ}
    (hx : ∀ r < 2 * (t.size - 1), midpointLeft (t.size - 1) t r x = 0) :
    ∀ c < 2 * (t.size - 1), x c = 0 := by
  have hn := hv.two_le
  set n := t.size - 1 with hn_def
  have hu : ∀ k < n, 0 < halfLength t k := fun k hk => hv.halfLength_pos hk
  have hvalue : ∀ k < n, x (2 * k) + halfLength t k * x (2 * k + 1) + x (2 * ((k + 1) % n)) -
      halfLength t k * x (2 * ((k + 1) % n) + 1) = 0 := by
    intro k hk
    have h := hx (2 * k) (by omega)
    rw [midpointLeft_even] at h
    exact (mul_eq_zero.mp h).resolve_left (hu k hk).ne'
  have hslope : ∀ k < n, x (2 * k) + 2 * halfLength t k * x (2 * k + 1) -
      x (2 * ((k + 1) % n)) + 2 * halfLength t k * x (2 * ((k + 1) % n) + 1) = 0 := by
    intro k hk
    have h := hx (2 * k + 1) (by omega)
    rwa [midpointLeft_odd] at h
  have hbefore : ∀ k < n, 4 * halfLength t k * x (2 * k + 1) =
      -(3 * x (2 * k) + x (2 * ((k + 1) % n))) := fun k hk => by
    linear_combination 2 * hvalue k hk + hslope k hk
  have hafter : ∀ k < n, 4 * halfLength t k * x (2 * ((k + 1) % n) + 1) =
      x (2 * k) + 3 * x (2 * ((k + 1) % n)) := fun k hk => by
    linear_combination hslope k hk - 2 * hvalue k hk
  have hprev : ∀ k < n, (k + n - 1) % n < n := fun k _ => Nat.mod_lt _ (by omega)
  have hnext : ∀ k < n, (k + 1) % n < n := fun k _ => Nat.mod_lt _ (by omega)
  have hslopes : ∀ k < n, x (2 * k) = 0 := by
    refine eq_zero_of_dominant (z := fun k => x (2 * k)) hprev hnext
      (d := fun k => 3 * (halfLength t ((k + n - 1) % n) + halfLength t k))
      (e := fun k => halfLength t k) (f := fun k => halfLength t ((k + n - 1) % n))
      (fun k hk => ?_) (fun k hk => ?_)
    · have h₀ := hu k hk
      have h₁ := hu _ (hprev k hk)
      rw [abs_of_pos h₀, abs_of_pos h₁]
      linarith
    · have h₁ := hbefore k hk
      have h₂ := hafter _ (hprev k hk)
      rw [next_prev hk] at h₂
      linear_combination halfLength t ((k + n - 1) % n) * h₁ - halfLength t k * h₂
  have hbends : ∀ k < n, x (2 * k + 1) = 0 := by
    intro k hk
    have h := hbefore k hk
    rw [hslopes k hk, hslopes _ (hnext k hk)] at h
    have h' : (4 * halfLength t k) * x (2 * k + 1) = 0 := by linarith
    exact (mul_eq_zero.mp h').resolve_left (by linarith [hu k hk])
  intro c hc
  obtain ⟨k, rfl | rfl⟩ := Nat.even_or_odd' c
  · exact hslopes k (by omega)
  · exact hbends k (by omega)

/-- The quadratic system of valid knots is nonsingular, for any number of segments. A vector the
matrix sends to zero satisfies every homogeneous midpoint equation. -/
theorem quadraticSystem_det_ne_zero : (toMatrix (quadraticSystem t y).1).det ≠ 0 := by
  obtain ⟨hsq, -, -, hrow⟩ := quadraticSystem_assembled t y
  intro hdet
  obtain ⟨v, hv0, hvz⟩ := Matrix.exists_mulVec_eq_zero_iff.mpr hdet
  apply hv0
  have hker := quadraticSystem_kernel hv (x := extendByZero v) fun r hr => by
    have hzero := congrFun hvz ⟨r, hsq.size_eq ▸ hr⟩
    rwa [mulVec_toMatrix, hrow, if_pos hr] at hzero
  funext i
  simpa [extendByZero] using hker i (hsq.size_eq ▸ i.isLt)

variable {solve : Linear.Matrix ℝ → Array ℝ → Option (Array ℝ)} (hsolve : SolvesNonsingular solve)
include hsolve

/-- With a solver that solves nonsingular systems, the cubic fit of valid knots succeeds,
with the curvatures the solver returns. -/
theorem fitWith_cubic_isOk :
    ∃ m, solve (cubicSystem t y).1 (cubicSystem t y).2 = some m ∧
      Periodic.fitWith solve t y 3 = .ok (cubicSpline t y m) := by
  obtain ⟨hsq, -, -, -⟩ := cubicSystem_assembled t y
  have hsq' : (cubicSystem t y).1.IsSquare (cubicSystem t y).1.size := by
    rw [hsq.size_eq]
    exact hsq
  obtain ⟨m, hm⟩ := Option.isSome_iff_exists.mp
    (hsolve _ (cubicSystem t y).2 hsq' (cubicSystem_det_ne_zero hv))
  refine ⟨m, hm, ?_⟩
  have hcheck := checkKnots_eq_ok.mpr ⟨hv, Or.inr rfl⟩
  simp [Periodic.fitWith, hcheck, solveFit, hm, allFinite, cubicSpline]
  rfl

/-- With a solver that solves nonsingular systems, the quadratic fit of valid knots succeeds,
with the coefficients the solver returns. -/
theorem fitWith_quadratic_isOk :
    ∃ x, solve (quadraticSystem t y).1 (quadraticSystem t y).2 = some x ∧
      Periodic.fitWith solve t y 2 = .ok (quadraticSpline t y x) := by
  obtain ⟨hsq, -, -, -⟩ := quadraticSystem_assembled t y
  have hsq' : (quadraticSystem t y).1.IsSquare (quadraticSystem t y).1.size := by
    rw [hsq.size_eq]
    exact hsq
  obtain ⟨x, hx⟩ := Option.isSome_iff_exists.mp
    (hsolve _ (quadraticSystem t y).2 hsq' (quadraticSystem_det_ne_zero hv))
  refine ⟨x, hx, ?_⟩
  have hcheck := checkKnots_eq_ok.mpr ⟨hv, Or.inl rfl⟩
  simp [Periodic.fitWith, hcheck, solveFit, hx, allFinite, quadraticSpline]
  rfl

end Nonsingular

/-! ## Unique coefficients -/

section Unique

variable {solve : Linear.Matrix ℝ → Array ℝ → Option (Array ℝ)} (hsys : SolvesSystems solve)
include hsys

/-- What a solver returns for a nonsingular square system is its only solution. The difference of
two solutions is sent to zero, so it is zero. -/
theorem solves_iff_eq {a : Linear.Matrix ℝ} {b m : Array ℝ} (hdet : (toMatrix a).det ≠ 0)
    (hm : solve a b = some m) {m' : Array ℝ} (hsize : m'.size = a.size) :
    (∀ i < a.size, a.rowApply i (fun j => m'.getD j 0) = b.getD i 0) ↔ m' = m := by
  obtain ⟨hmsize, hmsat⟩ := hsys a b m hm
  refine ⟨fun hsat => ?_, fun h => h ▸ hmsat⟩
  set v : Fin a.size → ℝ := fun j => m'.getD j 0 - m.getD j 0 with hv
  have hzero : (toMatrix a).mulVec v = 0 := by
    funext i
    have hsplit : a.rowApply i (extendByZero v) =
        a.rowApply i (fun j => m'.getD j 0) - a.rowApply i (fun j => m.getD j 0) := by
      simp only [Linear.Matrix.rowApply, ← Finset.sum_sub_distrib, ← mul_sub]
      refine Finset.sum_congr rfl fun j hj => ?_
      simp [extendByZero, Finset.mem_range.mp hj, hv]
    rw [mulVec_toMatrix, Pi.zero_apply, hsplit, hsat i i.isLt, hmsat i i.isLt, sub_self]
  have hv0 : v = 0 := by
    by_contra hne
    exact hdet (Matrix.exists_mulVec_eq_zero_iff.mp ⟨v, hne, hzero⟩)
  refine Array.ext (hsize.trans hmsize.symm) fun j hj hj' => ?_
  have hj0 := congrFun hv0 ⟨j, hsize ▸ hj⟩
  simp only [hv, Pi.zero_apply, Array.getD_eq_getD_getElem?, Array.getElem?_eq_getElem hj,
    Array.getElem?_eq_getElem hj', Option.getD_some] at hj0
  linarith

/-- The curvatures returned for the cubic system of valid knots are the only ones that
satisfy the equation of every knot. -/
theorem cubicSystem_solution_unique {t y m : Array ℝ} (hv : KnotsValid t y)
    (hm : solve (cubicSystem t y).1 (cubicSystem t y).2 = some m) {m' : Array ℝ}
    (hsize : m'.size = t.size - 1) :
    (∀ i < t.size - 1, cubicLeft (t.size - 1) (segmentLengths t) i (fun j => m'.getD j 0) =
      cubicRight (t.size - 1) (segmentLengths t) y i) ↔ m' = m := by
  obtain ⟨hsq, -, hrhs, hrow⟩ := cubicSystem_assembled t y
  rw [← solves_iff_eq hsys (cubicSystem_det_ne_zero hv) hm (hsize.trans hsq.size_eq.symm),
    hsq.size_eq]
  refine forall₂_congr fun i hi => ?_
  rw [hrow, if_pos hi, hrhs i hi, if_pos hi]

/-- The coefficients returned for the quadratic system of valid knots are the only ones that
satisfy both equations of every midpoint. -/
theorem quadraticSystem_solution_unique {t y x : Array ℝ} (hv : KnotsValid t y)
    (hx : solve (quadraticSystem t y).1 (quadraticSystem t y).2 = some x) {x' : Array ℝ}
    (hsize : x'.size = 2 * (t.size - 1)) :
    (∀ r < 2 * (t.size - 1), midpointLeft (t.size - 1) t r (fun j => x'.getD j 0) =
      midpointRight (t.size - 1) y r) ↔ x' = x := by
  obtain ⟨hsq, -, hrhs, hrow⟩ := quadraticSystem_assembled t y
  rw [← solves_iff_eq hsys (quadraticSystem_det_ne_zero hv) hx (hsize.trans hsq.size_eq.symm),
    hsq.size_eq]
  refine forall₂_congr fun r hr => ?_
  rw [hrow, if_pos hr, hrhs r hr, if_pos hr]

/-- Over exact arithmetic a periodic fit of valid knots never meets a singular system. Both of
its systems are nonsingular: the cubic one for the curvatures at the knots, and the quadratic
one for the slopes and bends of the parabolas. With a solver that returns only solutions and
solves every nonsingular system, a fit of degree 3 and one of degree 2 both return a spline,
whose coefficients are the only ones that satisfy the equations of every knot, or of every
midpoint. -/
theorem fitWith_solves_uniquely (hsolve : SolvesNonsingular solve) {t y : Array ℝ}
    (hv : KnotsValid t y) :
    (toMatrix (cubicSystem t y).1).det ≠ 0 ∧ (toMatrix (quadraticSystem t y).1).det ≠ 0 ∧
      (∃ m, Periodic.fitWith solve t y 3 = .ok (cubicSpline t y m) ∧
        ∀ m' : Array ℝ, m'.size = t.size - 1 →
          ((∀ i < t.size - 1, cubicLeft (t.size - 1) (segmentLengths t) i (fun j => m'.getD j 0) =
            cubicRight (t.size - 1) (segmentLengths t) y i) ↔ m' = m)) ∧
      (∃ x, Periodic.fitWith solve t y 2 = .ok (quadraticSpline t y x) ∧
        ∀ x' : Array ℝ, x'.size = 2 * (t.size - 1) →
          ((∀ r < 2 * (t.size - 1), midpointLeft (t.size - 1) t r (fun j => x'.getD j 0) =
            midpointRight (t.size - 1) y r) ↔ x' = x)) := by
  obtain ⟨m, hm, hcubic⟩ := fitWith_cubic_isOk hv hsolve
  obtain ⟨x, hx, hquadratic⟩ := fitWith_quadratic_isOk hv hsolve
  exact ⟨cubicSystem_det_ne_zero hv, quadraticSystem_det_ne_zero hv,
    ⟨m, hcubic, fun _ hsize => cubicSystem_solution_unique hsys hv hm hsize⟩,
    ⟨x, hquadratic, fun _ hsize => quadraticSystem_solution_unique hsys hv hx hsize⟩⟩

end Unique

/-- Four knots over three segments of unequal length, fitted by exact solving. -/
theorem fitWith_solves_uniquely_four_knots :
    let t : Array ℝ := #[0, 1, 3, 4]
    let y : Array ℝ := #[0, 2, 1, 0]
    SolvesSystems exactSolve ∧ SolvesNonsingular exactSolve ∧ KnotsValid t y ∧
      (toMatrix (cubicSystem t y).1).det ≠ 0 ∧ (toMatrix (quadraticSystem t y).1).det ≠ 0 ∧
      (∃ m, Periodic.fitWith exactSolve t y 3 = .ok (cubicSpline t y m) ∧
        ∀ m' : Array ℝ, m'.size = t.size - 1 →
          ((∀ i < t.size - 1, cubicLeft (t.size - 1) (segmentLengths t) i (fun j => m'.getD j 0) =
            cubicRight (t.size - 1) (segmentLengths t) y i) ↔ m' = m)) ∧
      (∃ x, Periodic.fitWith exactSolve t y 2 = .ok (quadraticSpline t y x) ∧
        ∀ x' : Array ℝ, x'.size = 2 * (t.size - 1) →
          ((∀ r < 2 * (t.size - 1), midpointLeft (t.size - 1) t r (fun j => x'.getD j 0) =
            midpointRight (t.size - 1) y r) ↔ x' = x)) := by
  intro t y
  have hv : KnotsValid t y := by
    refine ⟨rfl, by simp [t], by simp [t], fun k hk => ?_, by simp [t, y]⟩
    have hk' : k < 3 := by simpa [t] using hk
    interval_cases k <;> norm_num [t]
  exact ⟨solvesSystems_exactSolve, solvesNonsingular_exactSolve, hv,
    fitWith_solves_uniquely solvesSystems_exactSolve solvesNonsingular_exactSolve hv⟩

end Airspace.Spline
