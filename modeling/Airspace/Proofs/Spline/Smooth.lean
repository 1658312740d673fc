import Airspace.Proofs.Spline.Fit

/-!
# Fitted splines interpolate and are smooth

Over exact arithmetic, with a solver that returns solutions of the systems it is given
(`SolvesSystems`), a periodic fit that succeeds returns a spline that

* passes through every knot;
* on `[0, period]` is, piece by piece, a polynomial of its degree, evaluation and
  derivative being those of the piece whose interval holds the argument;
* has pieces that meet at every interior breakpoint (the knots for degree 3, the
  midpoints for degree 2) in value and slope, and for degree 3 in curvature;
* closes at the seam: at zero the first piece agrees with the last piece at the period
  to the same order.

A successful fit returns `cubicSpline` or `quadraticSpline` of what the solver returned
(`fitWith_eq_ok`), and that satisfies the equations of `cubicSystem_solution` or
`quadraticSystem_solution`. These equations are, piece for piece, the matching conditions
at the breakpoints.
-/

namespace Airspace.Spline

open Polynomial Airspace.Exact Airspace.Linear

/-- Agreement of two polynomials to order below three, at `x` and `y`, is agreement of
value, slope and curvature. -/
theorem forall_lt_three_iff {p q : ℝ[X]} {x y : ℝ} :
    (∀ r < 3, (derivative^[r] p).eval x = (derivative^[r] q).eval y) ↔
      p.eval x = q.eval y ∧ (derivative p).eval x = (derivative q).eval y ∧
        (derivative (derivative p)).eval x = (derivative (derivative q)).eval y := by
  constructor
  · intro h
    exact ⟨h 0 (by omega), h 1 (by omega), h 2 (by omega)⟩
  · rintro ⟨h₀, h₁, h₂⟩ r hr
    match r, hr with
    | 0, _ => exact h₀
    | 1, _ => exact h₁
    | 2, _ => exact h₂

/-- Agreement of two polynomials to order below two is agreement of value and slope. -/
theorem forall_lt_two_iff {p q : ℝ[X]} {x y : ℝ} :
    (∀ r < 2, (derivative^[r] p).eval x = (derivative^[r] q).eval y) ↔
      p.eval x = q.eval y ∧ (derivative p).eval x = (derivative q).eval y := by
  constructor
  · intro h
    exact ⟨h 0 (by omega), h 1 (by omega)⟩
  · rintro ⟨h₀, h₁⟩ r hr
    match r, hr with
    | 0, _ => exact h₀
    | 1, _ => exact h₁

/-! ## Cubic fits -/

/-- Curvature `k` of the stored list, for `k` up to its length, is curvature `k` taken
cyclically. -/
theorem getD_push_first {m : Array ℝ} {k : Nat} (hk : k ≤ m.size) :
    (m.push (m.getD 0 0)).getD k 0 = m.getD (k % m.size) 0 := by
  rcases Nat.lt_or_eq_of_le hk with hlt | rfl
  · rw [Nat.mod_eq_of_lt hlt]
    simp [Array.getD_eq_getD_getElem?, Array.getElem?_push, Nat.ne_of_lt hlt]
  · simp [Array.getD_eq_getD_getElem?]

section Cubic

variable {t y m : Array ℝ} (hv : KnotsValid t y) (hm : m.size = t.size - 1)
  (heq : ∀ i < t.size - 1, cubicLeft (t.size - 1) (segmentLengths t) i (fun j => m.getD j 0) =
    cubicRight (t.size - 1) (segmentLengths t) y i)

include hv hm heq

/-- At an interior knot two consecutive cubics agree in value, slope and curvature: the
slopes by the knot's equation, the rest by construction. Knot `j + 1` has neighbours `j` and `j + 2`
taken cyclically. -/
theorem cubicSpline_agree_interior {j : Nat} (hj : j + 1 < t.size - 1) :
    ∀ r < 3, (derivative^[r] ((cubicSpline t y m).piece j)).eval
        ((cubicSpline t y m).breakpoint (j + 1)) =
      (derivative^[r] ((cubicSpline t y m).piece (j + 1))).eval
        ((cubicSpline t y m).breakpoint (j + 1)) := by
  obtain ⟨-, hbreak, -, hpiece⟩ := Periodic.shape_cubic (s := cubicSpline t y m) rfl
  rw [forall_lt_three_iff, hbreak, hpiece, hpiece]
  simp only [cubicSpline]
  obtain ⟨hR₀, hR₁, hR₂⟩ := cubicPiece_right (y.getD j 0) (y.getD (j + 1) 0)
    ((m.push (m.getD 0 0)).getD j 0) ((m.push (m.getD 0 0)).getD (j + 1) 0)
    (hv.length_ne_zero (k := j) (by omega))
  obtain ⟨hL₀, hL₁, hL₂⟩ := cubicPiece_left (y.getD (j + 1) 0) (y.getD (j + 1 + 1) 0)
    ((m.push (m.getD 0 0)).getD (j + 1) 0) ((m.push (m.getD 0 0)).getD (j + 1 + 1) 0)
    (hv.length_ne_zero hj)
  refine ⟨hR₀.trans hL₀.symm, ?_, hR₂.trans hL₂.symm⟩
  rw [hR₁, hL₁]
  have hprev : (j + 1 + (t.size - 1) - 1) % (t.size - 1) = j := by
    rw [show j + 1 + (t.size - 1) - 1 = j + (t.size - 1) by omega, Nat.add_mod_right,
      Nat.mod_eq_of_lt (by omega)]
  have hknot := heq (j + 1) hj
  simp only [cubicLeft, cubicRight, hprev, getD_segmentLengths hj,
    getD_segmentLengths (show j < t.size - 1 by omega)] at hknot
  rw [getD_push_first (by omega), getD_push_first (by omega), getD_push_first (by omega), hm, Nat.mod_eq_of_lt (show j < t.size - 1 by omega),
    Nat.mod_eq_of_lt hj]
  linear_combination (1 / 6 : ℝ) * hknot

/-- At the seam the first cubic at zero and the last at the period agree in value (the
values close), in slope (by the first knot's equation) and in curvature (the stored
curvatures close). The first knot's neighbours are the last segment's start and knot `1`. -/
theorem cubicSpline_agree_seam :
    ∀ r < 3, (derivative^[r] ((cubicSpline t y m).piece 0)).eval 0 =
      (derivative^[r] ((cubicSpline t y m).piece ((cubicSpline t y m).pieceCount - 1))).eval
        (cubicSpline t y m).period := by
  have hn := hv.two_le
  have hlast : t.size - 1 - 1 + 1 = t.size - 1 := by omega
  have hseam : ∀ r < 3, (derivative^[r] ((cubicSpline t y m).piece 0)).eval (t.getD 0 0) =
      (derivative^[r] ((cubicSpline t y m).piece (t.size - 1 - 1))).eval
        (t.getD (t.size - 1) 0) := by
    obtain ⟨-, -, -, hpiece⟩ := Periodic.shape_cubic (s := cubicSpline t y m) rfl
    rw [forall_lt_three_iff, hpiece, hpiece]
    simp only [cubicSpline, hlast]
    obtain ⟨hL₀, hL₁, hL₂⟩ := cubicPiece_left (y.getD 0 0) (y.getD (0 + 1) 0)
      ((m.push (m.getD 0 0)).getD 0 0) ((m.push (m.getD 0 0)).getD (0 + 1) 0)
      (hv.length_ne_zero (k := 0) (by omega))
    have hh : t.getD (t.size - 1) 0 - t.getD (t.size - 1 - 1) 0 ≠ 0 := by
      have := hv.length_ne_zero (k := t.size - 1 - 1) (by omega)
      rwa [hlast] at this
    obtain ⟨hR₀, hR₁, hR₂⟩ := cubicPiece_right (y.getD (t.size - 1 - 1) 0) (y.getD (t.size - 1) 0)
      ((m.push (m.getD 0 0)).getD (t.size - 1 - 1) 0) ((m.push (m.getD 0 0)).getD (t.size - 1) 0)
      hh
    have hclose : (m.push (m.getD 0 0)).getD (t.size - 1) 0 = (m.push (m.getD 0 0)).getD 0 0 := by
      rw [getD_push_first (by omega), getD_push_first (by omega), hm, Nat.mod_self,
        Nat.zero_mod]
    refine ⟨hL₀.trans (hv.closed.symm.trans hR₀.symm), ?_, hL₂.trans (hR₂.trans hclose).symm⟩
    rw [hL₁, hR₁, hclose]
    have hknot := heq 0 (by omega)
    have hprev : (0 + (t.size - 1) - 1) % (t.size - 1) = t.size - 1 - 1 := by
      rw [Nat.zero_add]
      exact Nat.mod_eq_of_lt (by omega)
    simp only [cubicLeft, cubicRight, hprev, getD_segmentLengths (show 0 < t.size - 1 by omega),
      getD_segmentLengths (show t.size - 1 - 1 < t.size - 1 by omega), hlast] at hknot
    rw [getD_push_first (k := 0) (by omega), getD_push_first (k := 0 + 1) (by omega),
      getD_push_first (k := t.size - 1 - 1) (by omega), hm, Nat.zero_mod,
      Nat.mod_eq_of_lt (show 0 + 1 < t.size - 1 by omega),
      Nat.mod_eq_of_lt (show t.size - 1 - 1 < t.size - 1 by omega)]
    rw [Nat.mod_eq_of_lt (show 0 + 1 < t.size - 1 by omega)] at hknot
    rw [hv.closed]
    linear_combination (-1 / 6 : ℝ) * hknot
  obtain ⟨hcount, -, -, -⟩ := Periodic.shape_cubic (s := cubicSpline t y m) rfl
  rw [hcount, Periodic.period_eq]
  rw [hv.start] at hseam
  exact hseam

omit hm heq in
/-- The cubic spline passes through every knot: a knot before the last is the left end of the
segment evaluation uses there, and the last knot is the right end of the last segment. -/
theorem cubicSpline_eval_knot {k : Nat} (hk : k < t.size) :
    (cubicSpline t y m).eval (t.getD k 0) = .ok (y.getD k 0) := by
  have hn := hv.two_le
  obtain ⟨hcount, hbreak, -, hpiece⟩ := Periodic.shape_cubic (s := cubicSpline t y m) rfl
  obtain ⟨h₀, hP⟩ := hv.mem_domain hk
  rw [Periodic.eval_of_mem h₀ (by rwa [Periodic.period_eq]), Periodic.valueAt_eq_eval_piece]
  obtain ⟨hlt, hlo, hhi⟩ :=
    (cubicSpline t y m).pieceIndex_mem (show 0 < t.size - 1 by omega) hv.increasing hv.start h₀
  rw [hcount] at hlt hhi
  simp only [hbreak] at hlo hhi
  rw [hpiece]
  simp only [cubicSpline] at hlt hlo hhi ⊢
  rcases Nat.lt_or_ge k (t.size - 1) with hkn | hkn
  · have hj := index_unique (β := fun i => t.getD i 0) hv.increasing hlt hlo hhi hkn le_rfl
      (Or.inl (hv.increasing k hkn))
    rw [hj]
    exact congrArg Except.ok (cubicPiece_left _ _ _ _ (hv.length_ne_zero hkn)).1
  · have hkl : k = t.size - 1 := by omega
    have hj := index_unique (β := fun i => t.getD i 0) hv.increasing hlt hlo hhi
      (show t.size - 1 - 1 < t.size - 1 by omega) (hv.le_of_le (by omega) (by omega))
      (Or.inr (by omega))
    have hlast : t.size - 1 - 1 + 1 = k := by omega
    have hh : t.getD k 0 - t.getD (t.size - 1 - 1) 0 ≠ 0 := by
      have := hv.length_ne_zero (k := t.size - 1 - 1) (by omega)
      rwa [hlast] at this
    rw [hj, hlast]
    exact congrArg Except.ok (cubicPiece_right _ _ _ _ hh).1

end Cubic

/-! ## Quadratic fits -/

section Quadratic

variable {t y x : Array ℝ} (hv : KnotsValid t y)
include hv

omit hv in
/-- The breakpoints of a quadratic spline: zero, the midpoints of the segments, and the
period. -/
theorem quadraticSpline_breakpoint (j : Nat) :
    (quadraticSpline t y x).breakpoint j =
      if j = 0 then 0
      else if j < t.size then (t.getD (j - 1) 0 + t.getD j 0) / 2 else t.getD (t.size - 1) 0 := by
  obtain ⟨-, hbreak, -, -⟩ := Periodic.shape_quadratic (s := quadraticSpline t y x) rfl
  rw [hbreak, Periodic.period_eq]
  by_cases hj : j = 0
  · rw [if_pos hj, if_pos hj]
  · rw [if_neg hj, if_neg hj]
    by_cases hlt : j < t.size
    · rw [if_pos (show j < (quadraticSpline t y x).times.size from hlt), if_pos hlt,
        getD_map_range (by omega), Nat.sub_add_cancel (by omega)]
    · rw [if_neg (show ¬ j < (quadraticSpline t y x).times.size from hlt), if_neg hlt]
      rfl

/-- The breakpoints of a quadratic spline increase: from zero to the first midpoint, between
consecutive midpoints, and from the last midpoint to the period. -/
theorem quadraticSpline_breakpoint_lt {j : Nat} (hj : j < t.size) :
    (quadraticSpline t y x).breakpoint j < (quadraticSpline t y x).breakpoint (j + 1) := by
  rw [quadraticSpline_breakpoint, quadraticSpline_breakpoint, if_neg (Nat.succ_ne_zero j)]
  have hinc := hv.increasing
  by_cases hzero : j = 0
  · subst hzero
    rw [if_pos rfl, if_pos (show 0 + 1 < t.size by have := hv.three_le; omega), Nat.zero_add,
      Nat.sub_self, hv.start]
    linarith [hinc 0 (by have := hv.three_le; omega), hv.start]
  · rw [if_neg hzero, if_pos hj]
    by_cases hlast : j + 1 < t.size
    · rw [if_pos hlast, Nat.add_sub_cancel]
      have h₁ := hinc (j - 1) (by omega)
      have h₂ := hinc j (by omega)
      rw [Nat.sub_add_cancel (by omega)] at h₁
      linarith
    · rw [if_neg hlast, show t.size - 1 = j by omega]
      have h₁ := hinc (j - 1) (by omega)
      rw [Nat.sub_add_cancel (by omega)] at h₁
      linarith

/-- The quadratic spline passes through every knot: each knot lies in the interval of its
own parabola, where it is the parabola's base point. Knot `k` lies in the interval of parabola
`k`; the last knot takes the first knot's parabola, whose value closes the loop. -/
theorem quadraticSpline_eval_knot {k : Nat} (hk : k < t.size) :
    (quadraticSpline t y x).eval (t.getD k 0) = .ok (y.getD k 0) := by
  have hn := hv.two_le
  obtain ⟨hcount, -, -, hpiece⟩ := Periodic.shape_quadratic (s := quadraticSpline t y x) rfl
  obtain ⟨h₀, hP⟩ := hv.mem_domain hk
  rw [Periodic.eval_of_mem h₀ (by rwa [Periodic.period_eq]), Periodic.valueAt_eq_eval_piece]
  obtain ⟨hlt, hlo, hhi⟩ :=
    (quadraticSpline t y x).pieceIndex_mem (show 0 < t.size - 1 by omega) hv.increasing
      hv.start h₀
  rw [hcount] at hlt hhi
  have hklo : (quadraticSpline t y x).breakpoint k ≤ t.getD k 0 := by
    rw [quadraticSpline_breakpoint]
    by_cases hzero : k = 0
    · rw [if_pos hzero]
      exact h₀
    · rw [if_neg hzero, if_pos hk]
      have h₁ := hv.increasing (k - 1) (by omega)
      rw [Nat.sub_add_cancel (by omega)] at h₁
      linarith
  have hkhi : t.getD k 0 < (quadraticSpline t y x).breakpoint (k + 1) ∨ k + 1 = t.size := by
    by_cases hlast : k + 1 < t.size
    · left
      rw [quadraticSpline_breakpoint, if_neg (Nat.succ_ne_zero k), if_pos hlast,
        Nat.add_sub_cancel]
      have h₁ := hv.increasing k (by omega)
      linarith
    · exact Or.inr (by omega)
  have hj := index_unique (β := (quadraticSpline t y x).breakpoint) (N := t.size)
    (fun j hj => quadraticSpline_breakpoint_lt hv hj) hlt hlo hhi hk hklo hkhi
  rw [hj, hpiece]
  simp only [quadraticSpline]
  rw [eval_parabola, sub_self]
  simp only [mul_zero, add_zero, ne_eq, OfNat.ofNat_ne_zero, not_false_eq_true, zero_pow]
  rcases Nat.lt_or_ge k (t.size - 1) with hkn | hkn
  · rw [Nat.mod_eq_of_lt hkn]
  · rw [show k = t.size - 1 by omega, Nat.mod_self, hv.closed]

variable (heq : ∀ r < 2 * (t.size - 1),
  midpointLeft (t.size - 1) t r (fun j => x.getD j 0) = midpointRight (t.size - 1) y r)
include heq

omit hv in
/-- At a midpoint two consecutive parabolas agree in value and slope, by the two
equations of the midpoint. Rows `2j` and `2j + 1` are the equations of midpoint `j`. -/
theorem quadraticSpline_agree_interior {j : Nat} (hj : j < t.size - 1) :
    ∀ r < 2, (derivative^[r] ((quadraticSpline t y x).piece j)).eval
        ((quadraticSpline t y x).breakpoint (j + 1)) =
      (derivative^[r] ((quadraticSpline t y x).piece (j + 1))).eval
        ((quadraticSpline t y x).breakpoint (j + 1)) := by
  obtain ⟨-, -, -, hpiece⟩ := Periodic.shape_quadratic (s := quadraticSpline t y x) rfl
  rw [forall_lt_two_iff, quadraticSpline_breakpoint, if_neg (Nat.succ_ne_zero j),
    if_pos (show j + 1 < t.size by omega), Nat.add_sub_cancel, hpiece, hpiece]
  simp only [quadraticSpline]
  have hnext : (j + 1) % (t.size - 1) < t.size - 1 := Nat.mod_lt _ (by omega)
  rw [eval_parabola, eval_parabola, eval_derivative_parabola, eval_derivative_parabola,
    Nat.mod_eq_of_lt hj, getD_map_range hj, getD_map_range hj, getD_map_range hnext,
    getD_map_range hnext]
  have hvalue := heq (2 * j) (by omega)
  have hslope := heq (2 * j + 1) (by omega)
  simp only [midpointLeft, midpointRight, show 2 * j / 2 = j by omega,
    show 2 * j % 2 = 0 by omega, show (2 * j + 1) / 2 = j by omega,
    show (2 * j + 1) % 2 = 1 by omega, if_true, one_ne_zero, if_false] at hvalue hslope
  constructor
  · linear_combination hvalue
  · linear_combination hslope

omit heq in
/-- At the seam the first parabola at zero and the last piece at the period, which is the
first parabola moved to the period, agree in value and slope. -/
theorem quadraticSpline_agree_seam :
    ∀ r < 2, (derivative^[r] ((quadraticSpline t y x).piece 0)).eval 0 =
      (derivative^[r] ((quadraticSpline t y x).piece
        ((quadraticSpline t y x).pieceCount - 1))).eval (quadraticSpline t y x).period := by
  obtain ⟨hcount, -, -, hpiece⟩ := Periodic.shape_quadratic (s := quadraticSpline t y x) rfl
  rw [forall_lt_two_iff, hcount, Periodic.period_eq, hpiece, hpiece]
  simp only [quadraticSpline]
  rw [eval_parabola, eval_parabola, eval_derivative_parabola, eval_derivative_parabola,
    Nat.zero_mod, Nat.mod_self, hv.start]
  constructor
  · ring
  · ring

end Quadratic

/-! ## Fitted splines -/

/-- On `[0, period]` a spline with valid knots evaluates, and differentiates, the piece
whose interval holds the argument. -/
theorem Periodic.eval_piece_of_valid {s : Periodic ℝ} (hv : KnotsValid s.times s.values)
    {x : ℝ} (hx₀ : 0 ≤ x) (hx : x ≤ s.period) :
    s.pieceIndex x < s.pieceCount ∧ s.breakpoint (s.pieceIndex x) ≤ x ∧
      (x < s.breakpoint (s.pieceIndex x + 1) ∨ s.pieceIndex x + 1 = s.pieceCount) ∧
      s.eval x = .ok ((s.piece (s.pieceIndex x)).eval x) ∧
      s.derivative x = .ok ((Polynomial.derivative (s.piece (s.pieceIndex x))).eval x) := by
  have hn : 0 < s.times.size - 1 := by
    have := hv.three_le
    omega
  obtain ⟨hlt, hlo, hhi⟩ := s.pieceIndex_mem hn hv.increasing hv.start hx₀
  refine ⟨hlt, hlo, hhi, ?_, ?_⟩
  · rw [Periodic.eval_of_mem hx₀ hx, s.valueAt_eq_eval_piece]
  · rw [Periodic.derivative_of_mem hx₀ hx, s.slopeAt_eq_eval_derivative_piece hn hv.increasing]

/-- A fit that succeeds passes through every knot, whatever its solver returned. -/
theorem Periodic.fitWith_eval_knot {solve : Linear.Matrix ℝ → Array ℝ → Option (Array ℝ)}
    {t y : Array ℝ} {degree : Int} {s : Periodic ℝ}
    (hfit : Periodic.fitWith solve t y degree = .ok s) {k : Nat} (hk : k < t.size) :
    s.eval (t.getD k 0) = .ok (y.getD k 0) := by
  obtain ⟨hcheck, hcases⟩ := fitWith_eq_ok hfit
  obtain ⟨hv, -⟩ := checkKnots_eq_ok.mp hcheck
  rcases hcases with ⟨-, m, -, rfl⟩ | ⟨-, x, -, rfl⟩
  · exact cubicSpline_eval_knot hv hk
  · exact quadraticSpline_eval_knot hv hk

/-- Over exact arithmetic, with a solver that solves the systems it is given, a periodic
fit that succeeds has accepted valid knots and returns a spline of the asked degree that

* passes through every knot;
* is a polynomial of its degree on each of its pieces, whose breakpoints run from zero to
  the period, strictly increasing, the interior ones being the knots for degree 3 and the
  segment midpoints for degree 2;
* evaluates and differentiates, at every point of `[0, period]`, the piece whose interval
  holds the point;
* has consecutive pieces agreeing at their common breakpoint in every derivative of order
  below its degree (value and slope, and for degree 3 curvature);
* closes at the seam: the first piece at zero agrees with the last piece at the period in
  the same derivatives.

For degree 3 the curvatures solve the knot equations; for degree 2 the slopes and bends solve the
midpoint equations. -/
theorem fitWith_smooth_interpolant {solve : Linear.Matrix ℝ → Array ℝ → Option (Array ℝ)}
    (hsolve : SolvesSystems solve) {t y : Array ℝ} {degree : Int} {s : Periodic ℝ}
    (hfit : Periodic.fitWith solve t y degree = .ok s) :
    KnotsValid t y ∧ s.times = t ∧ s.values = y ∧ (s.degree : Int) = degree ∧
      (∀ k < t.size, s.eval (t.getD k 0) = .ok (y.getD k 0)) ∧
      (∀ j, (s.piece j).natDegree ≤ s.degree) ∧
      (s.breakpoint 0 = 0 ∧ s.breakpoint s.pieceCount = s.period ∧
        (∀ j < s.pieceCount, s.breakpoint j < s.breakpoint (j + 1)) ∧
        ∀ j, 0 < j → j < s.pieceCount → s.breakpoint j =
          if s.degree = 3 then t.getD j 0 else (t.getD (j - 1) 0 + t.getD j 0) / 2) ∧
      (∀ x, 0 ≤ x → x ≤ s.period →
        s.pieceIndex x < s.pieceCount ∧ s.breakpoint (s.pieceIndex x) ≤ x ∧
          (x < s.breakpoint (s.pieceIndex x + 1) ∨ s.pieceIndex x + 1 = s.pieceCount) ∧
          s.eval x = .ok ((s.piece (s.pieceIndex x)).eval x) ∧
          s.derivative x = .ok ((derivative (s.piece (s.pieceIndex x))).eval x)) ∧
      (∀ j, j + 1 < s.pieceCount → ∀ r < s.degree,
        (derivative^[r] (s.piece j)).eval (s.breakpoint (j + 1)) =
          (derivative^[r] (s.piece (j + 1))).eval (s.breakpoint (j + 1))) ∧
      ∀ r < s.degree, (derivative^[r] (s.piece 0)).eval 0 =
        (derivative^[r] (s.piece (s.pieceCount - 1))).eval s.period := by
  obtain ⟨hcheck, hcases⟩ := fitWith_eq_ok hfit
  obtain ⟨hv, hdeg⟩ := checkKnots_eq_ok.mp hcheck
  have hn := hv.two_le
  rcases hcases with ⟨hd, m, hm, rfl⟩ | ⟨hd, x, hx, rfl⟩
  · obtain ⟨hsize, heq⟩ := cubicSystem_solution hsolve hm
    obtain ⟨hcount, hbreak, -, -⟩ := Periodic.shape_cubic (s := cubicSpline t y m) rfl
    refine ⟨hv, rfl, rfl, by rw [hd]; rfl, fun k hk => Periodic.fitWith_eval_knot hfit hk,
      Periodic.natDegree_piece_le _, ⟨?_, ?_, ?_, ?_⟩,
      fun x hx₀ hx => Periodic.eval_piece_of_valid hv hx₀ hx,
      fun j hj => cubicSpline_agree_interior hv hsize heq (by rw [hcount] at hj; exact hj),
      cubicSpline_agree_seam hv hsize heq⟩
    · rw [hbreak]
      exact hv.start
    · rw [hcount, hbreak, Periodic.period_eq]
    · intro j hj
      rw [hbreak, hbreak]
      exact hv.increasing j (by rw [hcount] at hj; exact hj)
    · intro j _ _
      rw [hbreak, cubicSpline_degree, if_pos rfl, cubicSpline_times]
  · obtain ⟨-, heq⟩ := quadraticSystem_solution hsolve hx
    obtain ⟨hcount, -, -, -⟩ := Periodic.shape_quadratic (s := quadraticSpline t y x) rfl
    have htwo : degree = 2 := by omega
    refine ⟨hv, rfl, rfl, by rw [htwo]; rfl, fun k hk => Periodic.fitWith_eval_knot hfit hk,
      Periodic.natDegree_piece_le _, ⟨?_, ?_, ?_, ?_⟩,
      fun x hx₀ hx => Periodic.eval_piece_of_valid hv hx₀ hx,
      fun j hj => quadraticSpline_agree_interior heq
        (by rw [hcount, quadraticSpline_times] at hj; omega),
      quadraticSpline_agree_seam hv⟩
    · rw [quadraticSpline_breakpoint, if_pos rfl]
    · rw [hcount, quadraticSpline_times, quadraticSpline_breakpoint, if_neg (by omega),
        if_neg (lt_irrefl _), Periodic.period_eq, quadraticSpline_times]
    · intro j hj
      rw [hcount, quadraticSpline_times] at hj
      exact quadraticSpline_breakpoint_lt hv hj
    · intro j hj₀ hj
      rw [hcount, quadraticSpline_times] at hj
      rw [quadraticSpline_breakpoint, if_neg (by omega), if_pos hj, quadraticSpline_degree,
        if_neg (show ¬ (2 : Nat) = 3 by omega)]

/-- Knots `0, 1, 2` with values `0, 1, 0`, fitted with degree 3 by exact solving: the
solver solves what it is given, the fit succeeds, and its spline passes through the knots
and closes smoothly at the seam. -/
theorem fitWith_smooth_interpolant_three_knots :
    SolvesSystems exactSolve ∧ ∃ s, Periodic.fitWith exactSolve #[0, 1, 2] #[0, 1, 0] 3 = .ok s ∧
      (∀ k < 3, s.eval (#[(0 : ℝ), 1, 2].getD k 0) = .ok (#[(0 : ℝ), 1, 0].getD k 0)) ∧
      ∀ r < s.degree, (derivative^[r] (s.piece 0)).eval 0 =
        (derivative^[r] (s.piece (s.pieceCount - 1))).eval s.period := by
  have hv : KnotsValid #[(0 : ℝ), 1, 2] #[0, 1, 0] := by
    refine ⟨rfl, by simp, by simp, fun k hk => ?_, by simp⟩
    match k, hk with
    | 0, _ => norm_num
    | 1, _ => norm_num
  obtain ⟨m, -, hfit⟩ := fitWith_cubic_isOk hv solvesNonsingular_exactSolve
  have hsmooth := fitWith_smooth_interpolant solvesSystems_exactSolve hfit
  exact ⟨solvesSystems_exactSolve, _, hfit, hsmooth.2.2.2.2.1, hsmooth.2.2.2.2.2.2.2.2.2⟩

end Airspace.Spline
