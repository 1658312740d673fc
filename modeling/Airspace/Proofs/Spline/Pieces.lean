import Mathlib.Algebra.Polynomial.Derivative
import Mathlib.Tactic.ComputeDegree
import Mathlib.Tactic.FieldSimp
import Airspace.Proofs.Exact.Real
import Airspace.Spline.Evaluate

/-!
# The pieces of a periodic spline

On its domain a spline is a polynomial on each of finitely many intervals. This module
names those polynomials and intervals.

* A cubic spline has one piece per segment `[tₖ, tₖ₊₁]`: the cubic with the knot values
  and knot curvatures at its two ends (`cubicPiece`).
* A quadratic spline has one piece per knot: the parabola `yₖ + bₖ u + cₖ u²` in the
  offset `u` from knot `k` (`parabola`), which holds from the midpoint before the knot to
  the midpoint after it. The piece of the last knot, the period, is the parabola of the
  first knot moved to the period.

`Periodic.pieceIndex x` is the piece evaluation uses at `x`, `Periodic.breakpoint j`
where piece `j` begins, and `Periodic.pieceCount` the number of pieces. The main
statements are that evaluation at `x` is evaluation of that piece
(`Periodic.valueAt_eq_eval_piece`, `Periodic.slopeAt_eq_eval_derivative_piece`), and
that the piece is the one whose interval holds `x` (`Periodic.pieceIndex_mem`).
-/

namespace Airspace.Spline

open Polynomial Airspace.Exact

/-! ## The polynomials -/

/-- The cubic on `[t₀, t₁]` with values `y₀`, `y₁` and second derivatives `m₀`, `m₁` at the
ends, in the form evaluation writes it. -/
noncomputable def cubicPiece (t₀ t₁ y₀ y₁ m₀ m₁ : ℝ) : ℝ[X] :=
  let h := t₁ - t₀
  C (m₀ / (6 * h)) * (C t₁ - X) ^ 3 + C (m₁ / (6 * h)) * (X - C t₀) ^ 3 +
    C ((y₀ - m₀ * h ^ 2 / 6) / h) * (C t₁ - X) + C ((y₁ - m₁ * h ^ 2 / 6) / h) * (X - C t₀)

/-- The parabola `v + b (X - β) + c (X - β)²`. -/
noncomputable def parabola (v b c β : ℝ) : ℝ[X] :=
  C v + C b * (X - C β) + C c * (X - C β) ^ 2

section Cubic

variable (t₀ t₁ y₀ y₁ m₀ m₁ : ℝ)

theorem natDegree_cubicPiece_le : (cubicPiece t₀ t₁ y₀ y₁ m₀ m₁).natDegree ≤ 3 := by
  dsimp only [cubicPiece]
  compute_degree

theorem eval_cubicPiece (x : ℝ) :
    (cubicPiece t₀ t₁ y₀ y₁ m₀ m₁).eval x =
      m₀ / (6 * (t₁ - t₀)) * (t₁ - x) ^ 3 + m₁ / (6 * (t₁ - t₀)) * (x - t₀) ^ 3 +
        (y₀ - m₀ * (t₁ - t₀) ^ 2 / 6) / (t₁ - t₀) * (t₁ - x) +
        (y₁ - m₁ * (t₁ - t₀) ^ 2 / 6) / (t₁ - t₀) * (x - t₀) := by
  simp only [cubicPiece, eval_add, eval_mul, eval_C, eval_pow, eval_sub, eval_X]

/-- The slope of a cubic piece at any point. -/
theorem eval_derivative_cubicPiece (x : ℝ) :
    (derivative (cubicPiece t₀ t₁ y₀ y₁ m₀ m₁)).eval x =
      -(m₀ / (2 * (t₁ - t₀)) * (t₁ - x) ^ 2) + m₁ / (2 * (t₁ - t₀)) * (x - t₀) ^ 2 -
        (y₀ - m₀ * (t₁ - t₀) ^ 2 / 6) / (t₁ - t₀) + (y₁ - m₁ * (t₁ - t₀) ^ 2 / 6) / (t₁ - t₀) := by
  simp only [cubicPiece, derivative_add, derivative_mul, derivative_C, derivative_pow,
    derivative_sub, derivative_X, eval_add, eval_mul, eval_C, eval_pow, eval_sub, eval_X,
    eval_one, eval_zero]
  generalize t₁ - t₀ = h
  ring

theorem eval_derivative_derivative_cubicPiece (x : ℝ) :
    (derivative (derivative (cubicPiece t₀ t₁ y₀ y₁ m₀ m₁))).eval x =
      m₀ / (t₁ - t₀) * (t₁ - x) + m₁ / (t₁ - t₀) * (x - t₀) := by
  simp only [cubicPiece, derivative_add, derivative_mul, derivative_C, derivative_pow,
    derivative_sub, derivative_X, eval_add, eval_mul, eval_C, eval_pow, eval_sub, eval_X,
    eval_one, eval_zero, derivative_one, derivative_zero]
  generalize t₁ - t₀ = h
  ring

variable {t₀ t₁} (hh : t₁ - t₀ ≠ 0)
include hh

/-- At its left end the cubic takes the left value, the slope fixed by the end data, and
the left curvature. -/
theorem cubicPiece_left :
    (cubicPiece t₀ t₁ y₀ y₁ m₀ m₁).eval t₀ = y₀ ∧
      (derivative (cubicPiece t₀ t₁ y₀ y₁ m₀ m₁)).eval t₀ =
        (y₁ - y₀) / (t₁ - t₀) - (2 * m₀ + m₁) * (t₁ - t₀) / 6 ∧
      (derivative (derivative (cubicPiece t₀ t₁ y₀ y₁ m₀ m₁))).eval t₀ = m₀ := by
  refine ⟨?_, ?_, ?_⟩
  · rw [eval_cubicPiece]
    field_simp
    ring
  · rw [eval_derivative_cubicPiece]
    field_simp
    ring
  · rw [eval_derivative_derivative_cubicPiece]
    field_simp
    ring

/-- At its right end the cubic takes the right value, the slope fixed by the end data, and
the right curvature. -/
theorem cubicPiece_right :
    (cubicPiece t₀ t₁ y₀ y₁ m₀ m₁).eval t₁ = y₁ ∧
      (derivative (cubicPiece t₀ t₁ y₀ y₁ m₀ m₁)).eval t₁ =
        (y₁ - y₀) / (t₁ - t₀) + (m₀ + 2 * m₁) * (t₁ - t₀) / 6 ∧
      (derivative (derivative (cubicPiece t₀ t₁ y₀ y₁ m₀ m₁))).eval t₁ = m₁ := by
  refine ⟨?_, ?_, ?_⟩
  · rw [eval_cubicPiece]
    field_simp
    ring
  · rw [eval_derivative_cubicPiece]
    field_simp
    ring
  · rw [eval_derivative_derivative_cubicPiece]
    field_simp
    ring

end Cubic

section Parabola

variable (v b c β : ℝ)

theorem natDegree_parabola_le : (parabola v b c β).natDegree ≤ 2 := by
  unfold parabola
  compute_degree

theorem eval_parabola (x : ℝ) :
    (parabola v b c β).eval x = v + b * (x - β) + c * (x - β) ^ 2 := by
  simp only [parabola, eval_add, eval_mul, eval_C, eval_pow, eval_sub, eval_X]

theorem eval_derivative_parabola (x : ℝ) :
    (derivative (parabola v b c β)).eval x = b + 2 * c * (x - β) := by
  simp only [parabola, derivative_add, derivative_mul, derivative_C, derivative_pow,
    derivative_sub, derivative_X, eval_add, eval_mul, eval_C, eval_pow, eval_sub, eval_X,
    eval_one, eval_zero]
  ring

end Parabola

/-! ## Pieces, breakpoints and the piece in use -/

section Shape

variable {α : Type} [Scalar α]

/-- The number of pieces: one per segment for a cubic spline, one per knot for a
quadratic one. -/
def Periodic.pieceCount (s : Periodic α) : Nat :=
  match s.pieces with
  | .cubic _ => s.times.size - 1
  | .quadratic .. => s.times.size

/-- Where piece `j` begins; the piece after the last would begin at the period. For a
cubic spline these are the knots; for a quadratic one zero, then the midpoints. -/
def Periodic.breakpoint (s : Periodic α) (j : Nat) : α :=
  match s.pieces with
  | .cubic _ => s.times.getD j 0
  | .quadratic _ _ mids =>
    if j = 0 then 0 else if j < s.times.size then mids.getD (j - 1) 0 else s.period

/-- The piece that evaluation uses at `x`. -/
def Periodic.pieceIndex (s : Periodic α) (x : α) : Nat :=
  match s.pieces with
  | .cubic _ => s.segment x
  | .quadratic _ _ mids => firstIndex (s.times.size - 1) fun i => x < mids.getD i 0

theorem firstIndex_succ (n : Nat) (p : Nat → Bool) :
    firstIndex (n + 1) p =
      if firstIndex n p < n then firstIndex n p else if p n then n else n + 1 := by
  unfold firstIndex
  rw [List.range_succ, List.find?_append]
  cases hfind : (List.range n).find? p with
  | none => cases hp : p n <;> simp [hp]
  | some j =>
    have hj : j < n := List.mem_range.mp (List.mem_of_find?_eq_some hfind)
    simp [hj]

/-- `firstIndex n p` is at most `n`, `p` fails below it, and holds at it unless it is `n`. -/
theorem firstIndex_spec (n : Nat) (p : Nat → Bool) :
    firstIndex n p ≤ n ∧ (∀ k < firstIndex n p, p k = false) ∧
      (firstIndex n p < n → p (firstIndex n p) = true) := by
  induction n with
  | zero => exact ⟨le_rfl, fun k hk => absurd hk (Nat.not_lt_zero k), fun h => absurd h (lt_irrefl 0)⟩
  | succ n ih =>
    obtain ⟨hle, hbelow, hat⟩ := ih
    rw [firstIndex_succ]
    by_cases hlt : firstIndex n p < n
    · simp only [hlt, if_true]
      exact ⟨by omega, hbelow, fun _ => hat hlt⟩
    · have heq : firstIndex n p = n := by omega
      simp only [hlt, if_false]
      by_cases hpn : p n = true
      · rw [if_pos hpn]
        exact ⟨by omega, fun k hk => hbelow k (by omega), fun _ => hpn⟩
      · rw [if_neg hpn]
        refine ⟨le_rfl, fun k hk => ?_, fun h => absurd h (lt_irrefl _)⟩
        rcases Nat.lt_succ_iff_lt_or_eq.mp hk with hk | rfl
        · exact hbelow k (by omega)
        · simpa using hpn

/-- The parabola a quadratic spline evaluates at `x` is that of piece `pieceIndex x`
taken modulo the number of segments, with the offset from that piece's knot. -/
theorem Periodic.quadraticPiece_eq {s : Periodic α} {b c mids : Array α}
    (hs : s.pieces = .quadratic b c mids) (x : α) :
    s.quadraticPiece mids x =
      (s.pieceIndex x % (s.times.size - 1), x - s.times.getD (s.pieceIndex x) 0) := by
  have hle := (firstIndex_spec (s.times.size - 1) fun i => x < mids.getD i 0).1
  simp only [Periodic.quadraticPiece, Periodic.pieceIndex, hs, Periodic.period]
  split
  · rename_i heq
    rw [heq, Nat.mod_self]
  · rename_i hne
    rw [Nat.mod_eq_of_lt (by omega)]

end Shape

/-- Piece `j` of a spline over exact arithmetic: the cubic of segment `j`, or the
parabola of knot `j`, whose coefficients for the last knot are those of the first. -/
noncomputable def Periodic.piece (s : Periodic ℝ) (j : Nat) : ℝ[X] :=
  match s.pieces with
  | .cubic m =>
    cubicPiece (s.times.getD j 0) (s.times.getD (j + 1) 0) (s.values.getD j 0)
      (s.values.getD (j + 1) 0) (m.getD j 0) (m.getD (j + 1) 0)
  | .quadratic b c _ =>
    let k := j % (s.times.size - 1)
    parabola (s.values.getD k 0) (b.getD k 0) (c.getD k 0) (s.times.getD j 0)

theorem Periodic.natDegree_piece_le (s : Periodic ℝ) (j : Nat) :
    (s.piece j).natDegree ≤ s.degree := by
  unfold Periodic.piece Periodic.degree
  cases s.pieces with
  | cubic m => exact natDegree_cubicPiece_le _ _ _ _ _ _
  | quadratic b c mids => exact natDegree_parabola_le _ _ _ _

/-- Evaluation is evaluation of the piece in use. -/
theorem Periodic.valueAt_eq_eval_piece (s : Periodic ℝ) (x : ℝ) :
    s.valueAt x = (s.piece (s.pieceIndex x)).eval x := by
  cases hs : s.pieces with
  | cubic m =>
    simp only [Periodic.valueAt, Periodic.piece, Periodic.pieceIndex, hs, eval_cubicPiece,
      ofNat_zero]
    generalize s.times.getD (s.segment x + 1) 0 - s.times.getD (s.segment x) 0 = h
    ring
  | quadratic b c mids =>
    simp only [Periodic.valueAt, Periodic.piece, hs, Periodic.quadraticPiece_eq hs,
      eval_parabola, ofNat_zero]
    ring

/-- Over exact arithmetic the domain of a spline is exactly `[0, period]`. -/
theorem Periodic.inDomain_iff (s : Periodic ℝ) (x : ℝ) :
    s.inDomain x = true ↔ 0 ≤ x ∧ x ≤ s.period := by
  simp [Periodic.inDomain, not_lt]

theorem Periodic.eval_of_mem {s : Periodic ℝ} {x : ℝ} (hx₀ : 0 ≤ x) (hx : x ≤ s.period) :
    s.eval x = .ok (s.valueAt x) := by
  rw [Periodic.eval, if_pos ((s.inDomain_iff x).mpr ⟨hx₀, hx⟩)]

theorem Periodic.derivative_of_mem {s : Periodic ℝ} {x : ℝ} (hx₀ : 0 ≤ x) (hx : x ≤ s.period) :
    s.derivative x = .ok (s.slopeAt x) := by
  rw [Periodic.derivative, if_pos ((s.inDomain_iff x).mpr ⟨hx₀, hx⟩)]

/-! ## The shape of a spline over exact arithmetic, by degree -/

section Shape

variable {s : Periodic ℝ}

theorem Periodic.segment_eq (s : Periodic ℝ) (x : ℝ) :
    s.segment x =
      if firstIndex (s.times.size - 1) (fun k => x < s.times.getD (k + 1) 0) = s.times.size - 1
      then s.times.size - 1 - 1
      else firstIndex (s.times.size - 1) fun k => x < s.times.getD (k + 1) 0 := by
  simp only [Periodic.segment, ofNat_zero]

theorem Periodic.shape_cubic {m : Array ℝ} (hs : s.pieces = .cubic m) :
    s.pieceCount = s.times.size - 1 ∧ (∀ j, s.breakpoint j = s.times.getD j 0) ∧
      (∀ x, s.pieceIndex x = s.segment x) ∧
      ∀ j, s.piece j = cubicPiece (s.times.getD j 0) (s.times.getD (j + 1) 0)
        (s.values.getD j 0) (s.values.getD (j + 1) 0) (m.getD j 0) (m.getD (j + 1) 0) := by
  simp only [Periodic.pieceCount, Periodic.breakpoint, Periodic.pieceIndex, Periodic.piece, hs,
    ofNat_zero]
  exact ⟨trivial, fun _ => trivial, fun _ => trivial, fun _ => trivial⟩

theorem Periodic.shape_quadratic {b c mids : Array ℝ} (hs : s.pieces = .quadratic b c mids) :
    s.pieceCount = s.times.size ∧
      (∀ j, s.breakpoint j =
        if j = 0 then 0 else if j < s.times.size then mids.getD (j - 1) 0 else s.period) ∧
      (∀ x, s.pieceIndex x = firstIndex (s.times.size - 1) fun i => x < mids.getD i 0) ∧
      ∀ j, s.piece j = parabola (s.values.getD (j % (s.times.size - 1)) 0)
        (b.getD (j % (s.times.size - 1)) 0) (c.getD (j % (s.times.size - 1)) 0)
        (s.times.getD j 0) := by
  simp only [Periodic.pieceCount, Periodic.breakpoint, Periodic.pieceIndex, Periodic.piece, hs,
    ofNat_zero]
  exact ⟨trivial, fun _ => trivial, fun _ => trivial, fun _ => trivial⟩

end Shape

section Knots

variable (s : Periodic ℝ) (hn : 0 < s.times.size - 1)
  (hinc : ∀ k < s.times.size - 1, s.times.getD k 0 < s.times.getD (k + 1) 0)

include hn in
theorem Periodic.segment_lt (x : ℝ) : s.segment x < s.times.size - 1 := by
  have hle := (firstIndex_spec (s.times.size - 1) fun k => x < s.times.getD (k + 1) 0).1
  rw [s.segment_eq]
  split <;> omega

include hn hinc

/-- The derivative is the derivative of the piece in use, on knots that increase. -/
theorem Periodic.slopeAt_eq_eval_derivative_piece (x : ℝ) :
    s.slopeAt x = (Polynomial.derivative (s.piece (s.pieceIndex x))).eval x := by
  cases hs : s.pieces with
  | cubic m =>
    have hh : s.times.getD (s.segment x + 1) 0 - s.times.getD (s.segment x) 0 ≠ 0 :=
      sub_ne_zero.mpr (hinc _ (s.segment_lt hn x)).ne'
    simp only [Periodic.slopeAt, Periodic.piece, Periodic.pieceIndex, hs,
      eval_derivative_cubicPiece, ofNat_zero]
    generalize s.times.getD (s.segment x + 1) 0 - s.times.getD (s.segment x) 0 = h at hh ⊢
    field_simp
    ring
  | quadratic b c mids =>
    simp only [Periodic.slopeAt, Periodic.piece, hs, Periodic.quadraticPiece_eq hs,
      eval_derivative_parabola, ofNat_zero]

/-- From the first knot on, a cubic spline evaluates on the segment that holds `x`: it
begins at or before `x`, and ends after `x` unless it is the last segment. The segment begins where
the one before it, which ends at or before `x`, ends; when no segment ends after `x`, the last one
ends at or before it. -/
theorem Periodic.segment_mem {x : ℝ} (hx : s.times.getD 0 0 ≤ x) :
    s.times.getD (s.segment x) 0 ≤ x ∧
      (x < s.times.getD (s.segment x + 1) 0 ∨ s.segment x + 1 = s.times.size - 1) := by
  obtain ⟨hle, hbelow, hat⟩ :=
    firstIndex_spec (s.times.size - 1) fun k => x < s.times.getD (k + 1) 0
  rw [s.segment_eq]
  split
  · have hend : ¬ x < s.times.getD (s.times.size - 1 - 1 + 1) 0 := by
      simpa using hbelow (s.times.size - 1 - 1) (by omega)
    exact ⟨(hinc _ (by omega)).le.trans (not_lt.mp hend), Or.inr (by omega)⟩
  · refine ⟨?_, Or.inl (by simpa using hat (by omega))⟩
    cases hi : firstIndex (s.times.size - 1) fun k => x < s.times.getD (k + 1) 0 with
    | zero => exact hx
    | succ k => simpa using hbelow k (by omega)

/-- From zero on, evaluation uses the piece whose interval holds `x`: it begins at or
before `x`, at zero or at the midpoint before its knot, and ends after `x` unless it is the last
piece. -/
theorem Periodic.pieceIndex_mem (h0 : s.times.getD 0 0 = 0) {x : ℝ} (hx : 0 ≤ x) :
    s.pieceIndex x < s.pieceCount ∧ s.breakpoint (s.pieceIndex x) ≤ x ∧
      (x < s.breakpoint (s.pieceIndex x + 1) ∨ s.pieceIndex x + 1 = s.pieceCount) := by
  cases hs : s.pieces with
  | cubic m =>
    obtain ⟨hcount, hbreak, hindex, -⟩ := Periodic.shape_cubic hs
    rw [hcount, hbreak, hbreak, hindex]
    exact ⟨s.segment_lt hn x, s.segment_mem hn hinc (by rw [h0]; exact hx)⟩
  | quadratic b c mids =>
    obtain ⟨hcount, hbreak, hindex, -⟩ := Periodic.shape_quadratic hs
    obtain ⟨hle, hbelow, hat⟩ := firstIndex_spec (s.times.size - 1) fun i => x < mids.getD i 0
    rw [hcount, hbreak, hbreak, hindex]
    generalize firstIndex (s.times.size - 1) (fun i => x < mids.getD i 0) = j at hle hbelow hat ⊢
    refine ⟨by omega, ?_, ?_⟩
    · by_cases hj : j = 0
      · rw [if_pos hj]
        exact hx
      · rw [if_neg hj, if_pos (by omega)]
        simpa using hbelow (j - 1) (by omega)
    · by_cases hlast : j = s.times.size - 1
      · exact Or.inr (by omega)
      · left
        rw [if_neg (by omega), if_pos (by omega), Nat.add_sub_cancel]
        simpa using hat (by omega)

end Knots

end Airspace.Spline
