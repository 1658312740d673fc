import Airspace.Proofs.Binary64.Monotone
import Airspace.Proofs.Obstacle.Domain

/-!
# Finding the piece that holds a point

A fitted spline finds the piece that holds a point of its domain by searching an increasing
sequence of boundaries for the first one beyond the point: the knot times after the first for
a cubic spline, the midpoints between consecutive knots for a quadratic one. The search
predicate "the boundary lies beyond `x`" holds from some index on because the boundaries
increase, so the first index where it holds is the piece whose interval holds `x`.

* Over binary64, as the program computes: the segment of a cubic spline is the one with
  `tᵢ ≤ x < tᵢ₊₁`, or the last one at the period (`Periodic.segment_eq_iff`). The piece of a
  quadratic spline is the first whose midpoint lies beyond `x`, with `x` at or above the
  midpoint before it, or the wrap-around piece, the first parabola moved to the period, from
  the last midpoint on (`Periodic.quadraticPiece_eq_iff`). The midpoints are computed in
  binary64 and increase all the same, though not strictly, because binary64 rounding is
  monotone (`midpoint_mono`).
* Over exact arithmetic the midpoints are exact, and the offset of `x` from the knot of its
  piece is less than half a segment after it and at most half a segment before it
  (`Periodic.quadraticPiece_offset_mem`).
-/

namespace Airspace.Spline

open Airspace.IEEE754

/-! ## The first index where a predicate holds -/

/-- `firstIndex n p` is the first index below `n` where `p` holds, or `n` when there is
none. A first index `k` is found neither before `k`, where `p` fails, nor after it, since `p k`
holds. -/
theorem firstIndex_eq_iff {n k : ℕ} {p : ℕ → Bool} :
    firstIndex n p = k ↔
      (k < n ∧ p k = true ∧ ∀ j < k, p j = false) ∨ (k = n ∧ ∀ j < n, p j = false) := by
  obtain ⟨hle, hbelow, hat⟩ := firstIndex_spec n p
  constructor
  · rintro rfl
    rcases hle.lt_or_eq with hlt | heq
    · exact Or.inl ⟨hlt, hat hlt, hbelow⟩
    · exact Or.inr ⟨heq, fun j hj => hbelow j (by omega)⟩
  · rintro (⟨hk, hpk, hbefore⟩ | ⟨hkn, hnone⟩)
    · rcases Nat.lt_trichotomy (firstIndex n p) k with hlt | heq | hgt
      · have := hat (hlt.trans hk)
        rw [hbefore _ hlt] at this
        cases this
      · exact heq
      · have := hbelow k hgt
        rw [hpk] at this
        cases this
    · rw [hkn]
      by_contra hne
      have hlt : firstIndex n p < n := lt_of_le_of_ne hle hne
      have := hat hlt
      rw [hnone _ hlt] at this
      cases this

/-! ## The midpoints of a fitted quadratic spline -/

section Fitted

variable {α : Type} [Scalar α] {solve : Linear.Matrix α → Array α → Option (Array α)}
  {t y : Array α} {degree : Int} {s : Periodic α} {b c mids : Array α}

/-- The midpoints where the parabolas of a fitted quadratic spline meet are those of its
knot times, computed in the spline's arithmetic. -/
theorem Periodic.fitWith_mids (hfit : Periodic.fitWith solve t y degree = .ok s)
    (hs : s.pieces = .quadratic b c mids) :
    mids = (Array.range (t.size - 1)).map fun k => (t.getD k 0 + t.getD (k + 1) 0) / 2 := by
  obtain ⟨u, -, h⟩ := bind_eq_ok hfit
  by_cases hd : degree = 3
  · rw [if_pos hd] at h
    obtain ⟨m, -, h⟩ := bind_eq_ok h
    cases h
    cases hs
  · rw [if_neg hd] at h
    obtain ⟨x, -, h⟩ := bind_eq_ok h
    cases h
    cases hs
    rfl

theorem Periodic.getD_mids (hfit : Periodic.fitWith solve t y degree = .ok s)
    (hs : s.pieces = .quadratic b c mids) {k : ℕ} (hk : k < t.size - 1) :
    mids.getD k 0 = (t.getD k 0 + t.getD (k + 1) 0) / 2 := by
  rw [Periodic.fitWith_mids hfit hs]
  simp [Array.getD_eq_getD_getElem?, hk]

end Fitted

section Binary64

variable {x : Float}

/-- The search for the first of `n > 0` increasing binary64 numbers that lies beyond a number
`x`: it finds index `k` exactly when `x` lies below the `k`-th and at or above every earlier
one, and finds none exactly when `x` is at or above the last, which every boundary is at most.
Below `x` is the same as not beyond it, for numbers. -/
theorem firstIndex_lt_eq_iff {β : ℕ → Float} {n : ℕ} (hn : 0 < n)
    (hmono : ∀ i j, i ≤ j → j < n → β i ≤ β j) (hnan : ∀ j < n, (β j).isNaN = false)
    (hx : x.isNaN = false) (k : ℕ) :
    firstIndex n (fun i => decide (x < β i)) = k ↔
      (k < n ∧ x < β k ∧ ∀ j < k, β j ≤ x) ∨ (k = n ∧ β (n - 1) ≤ x) := by
  rw [firstIndex_eq_iff]
  simp only [decide_eq_true_eq, decide_eq_false_iff_not]
  have hnot : ∀ j < n, ¬ x < β j ↔ β j ≤ x := fun j hj =>
    ⟨le_of_not_lt hx (hnan j hj), fun h => not_lt_of_le h⟩
  constructor
  · rintro (⟨hk, hxk, hbefore⟩ | ⟨rfl, hnone⟩)
    · exact Or.inl ⟨hk, hxk, fun j hj => (hnot j (by omega)).mp (hbefore j hj)⟩
    · exact Or.inr ⟨rfl, (hnot _ (by omega)).mp (hnone _ (by omega))⟩
  · rintro (⟨hk, hxk, hbefore⟩ | ⟨rfl, hlast⟩)
    · exact Or.inl ⟨hk, hxk, fun j hj => (hnot j (by omega)).mpr (hbefore j hj)⟩
    · exact Or.inr ⟨rfl, fun j hj =>
        (hnot j hj).mpr (le_trans (hmono j (k - 1) (by omega) (by omega)) hlast)⟩

variable {t : Array Float} {n : ℕ}

/-- Knot times that strictly increase up to index `n`: a later one is larger. -/
theorem knot_lt_knot (hinc : ∀ k < n, t.getD k 0 < t.getD (k + 1) 0) {i j : ℕ} (hij : i < j)
    (hj : j ≤ n) : t.getD i 0 < t.getD j 0 := by
  induction j with
  | zero => omega
  | succ j ih =>
    rcases Nat.lt_succ_iff_lt_or_eq.mp hij with hlt | rfl
    · exact lt_trans (ih hlt (by omega)) (hinc j (by omega))
    · exact hinc i (by omega)

/-- Knot times that strictly increase are ordered as their indices are; a knot is at or below
itself, being a number since it is below the next or above the one before. -/
theorem knot_le_knot (hinc : ∀ k < n, t.getD k 0 < t.getD (k + 1) 0) {i j : ℕ} (hij : i ≤ j)
    (hj : j ≤ n) (hn : 0 < n) : t.getD i 0 ≤ t.getD j 0 := by
  rcases hij.lt_or_eq with hlt | rfl
  · exact le_of_lt (knot_lt_knot hinc hlt hj)
  · rcases Nat.lt_or_ge i n with hi | hi
    · exact le_refl_of_isNaN (lt_iff.mp (hinc i hi)).1
    · have hlast : i = n - 1 + 1 := by omega
      rw [hlast]
      exact le_refl_of_isNaN (lt_iff.mp (hinc (n - 1) (by omega))).2.1

/-- Knot times from zero that strictly increase are not negative. -/
theorem zero_le_knot (hstart : (t.getD 0 0 == 0) = true)
    (hinc : ∀ k < n, t.getD k 0 < t.getD (k + 1) 0) (hn : 0 < n) {k : ℕ} (hk : k ≤ n) :
    0 ≤ t.getD k 0 :=
  le_trans (le_of_beq (BEq.symm hstart)) (knot_le_knot hinc (Nat.zero_le k) hk hn)

/-- The midpoints of knot times from zero that strictly increase, computed in binary64,
increase too, though not strictly. -/
theorem midpoint_mono (hstart : (t.getD 0 0 == 0) = true)
    (hinc : ∀ k < n, t.getD k 0 < t.getD (k + 1) 0) {i j : ℕ} (hij : i ≤ j) (hj : j < n) :
    (t.getD i 0 + t.getD (i + 1) 0) / Float.ofNat 2 ≤
      (t.getD j 0 + t.getD (j + 1) 0) / Float.ofNat 2 :=
  midpoint_le_midpoint (zero_le_knot hstart hinc (by omega) (by omega))
    (zero_le_knot hstart hinc (by omega) (by omega))
    (knot_le_knot hinc hij (by omega) (by omega))
    (knot_le_knot hinc (by omega : i + 1 ≤ j + 1) (by omega) (by omega))

/-! ## Fitted binary64 splines -/

variable {solve : Linear.Matrix Float → Array Float → Option (Array Float)} {y : Array Float}
  {degree : Int} {s : Periodic Float}

/-- The search of the segment, in binary64's comparisons. -/
theorem Periodic.segment_eq_ite (s : Periodic Float) (x : Float) :
    s.segment x =
      if firstIndex (s.times.size - 1) (fun k => decide (x < s.times.getD (k + 1) 0)) =
          s.times.size - 1 then s.times.size - 1 - 1
      else firstIndex (s.times.size - 1) fun k => decide (x < s.times.getD (k + 1) 0) := rfl

/-- The search of the parabola, in binary64's comparisons. -/
theorem Periodic.quadraticPiece_eq_ite (s : Periodic Float) (mids : Array Float) (x : Float) :
    s.quadraticPiece mids x =
      if firstIndex (s.times.size - 1) (fun i => decide (x < mids.getD i 0)) =
          s.times.size - 1 then (0, x - s.period)
      else (firstIndex (s.times.size - 1) (fun i => decide (x < mids.getD i 0)),
        x - s.times.getD (firstIndex (s.times.size - 1) fun i => decide (x < mids.getD i 0)) 0) :=
  rfl

theorem Periodic.period_eq_getD (s : Periodic Float) :
    s.period = s.times.getD (s.times.size - 1) 0 := rfl

/-- A fitted binary64 spline finds the segment of a point `x ≥ 0`: the one with
`tᵢ ≤ x < tᵢ₊₁`, or the last one from the period on. The boundaries searched are the knot times
after the first; when none lies beyond `x`, `x` is at or above the period, and otherwise the
segment starts at zero or where the one before it ends, at or below `x`. -/
theorem Periodic.segment_eq_iff (hfit : Periodic.fitWith solve t y degree = .ok s) (hx0 : 0 ≤ x)
    (i : ℕ) :
    s.segment x = i ↔ (i < t.size - 1 ∧ t.getD i 0 ≤ x ∧ x < t.getD (i + 1) 0) ∨
      (s.period ≤ x ∧ i = t.size - 1 - 1) := by
  obtain ⟨hcheck, rfl⟩ := Periodic.fitWith_ok hfit
  obtain ⟨-, hthree, hstart, hinc⟩ := checkKnots_ok hcheck
  have hn : 0 < s.times.size - 1 := by omega
  have hsearch := firstIndex_lt_eq_iff (β := fun k => s.times.getD (k + 1) 0) hn
    (fun i j hij hj => knot_le_knot hinc (by omega) (by omega) hn)
    (fun j hj => (lt_iff.mp (hinc j hj)).2.1) (le_iff.mp hx0).2.1
  have hlast : s.times.size - 1 - 1 + 1 = s.times.size - 1 := by omega
  simp only [hlast] at hsearch
  rw [Periodic.segment_eq_ite, ← Periodic.period_eq_getD] at *
  generalize hf : firstIndex (s.times.size - 1) (fun k => decide (x < s.times.getD (k + 1) 0)) = f
  have hspec := (hsearch f).mp hf
  constructor
  · rintro rfl
    split_ifs with hfn
    · refine Or.inr ⟨?_, rfl⟩
      rcases hspec with ⟨hlt, -⟩ | ⟨-, hperiod⟩
      · omega
      · exact hperiod
    · rcases hspec with ⟨hlt, hxk, hbefore⟩ | ⟨hfn', -⟩
      · refine Or.inl ⟨hlt, ?_, hxk⟩
        cases f with
        | zero => exact le_trans (le_of_beq hstart) hx0
        | succ f => exact hbefore f (by omega)
      · exact absurd hfn' hfn
  · rintro (⟨hi, hlo, hhi⟩ | ⟨hperiod, rfl⟩)
    · have hfi : f = i := hf.symm.trans ((hsearch i).mpr (Or.inl ⟨hi, hhi, fun j hj =>
        le_trans (knot_le_knot hinc (by omega) (by omega) hn) hlo⟩))
      rw [if_neg (by omega), hfi]
    · have hfn : f = s.times.size - 1 :=
        hf.symm.trans ((hsearch _).mpr (Or.inr ⟨rfl, hperiod⟩))
      rw [if_pos hfn]

/-- A fitted binary64 quadratic spline finds the parabola of a point `x ≥ 0`: the first whose
midpoint lies beyond `x`, `x` being at or above the midpoint before it (or zero for the
first), or the wrap-around parabola of the period when no midpoint lies beyond `x`. The midpoints
are computed in binary64 and increase, as binary64 rounding is monotone, so the search is over a
monotone predicate; below `x` is the same as not beyond it, for the midpoints. -/
theorem Periodic.quadraticPiece_eq_iff (hfit : Periodic.fitWith solve t y degree = .ok s)
    {b c mids : Array Float} (hs : s.pieces = .quadratic b c mids) (hx0 : 0 ≤ x) (k : ℕ)
    (u : Float) :
    s.quadraticPiece mids x = (k, u) ↔
      (k < t.size - 1 ∧ x < mids.getD k 0 ∧ (∀ j < k, ¬ x < mids.getD j 0) ∧
          (if k = 0 then 0 else mids.getD (k - 1) 0) ≤ x ∧ u = x - t.getD k 0) ∨
        (mids.getD (t.size - 1 - 1) 0 ≤ x ∧ k = 0 ∧ u = x - s.period) := by
  have hmid : ∀ {k}, k < t.size - 1 → mids.getD k 0 = (t.getD k 0 + t.getD (k + 1) 0) / 2 :=
    fun hk => Periodic.getD_mids hfit hs hk
  obtain ⟨hcheck, rfl⟩ := Periodic.fitWith_ok hfit
  obtain ⟨-, hthree, hstart, hinc⟩ := checkKnots_ok hcheck
  have hn : 0 < s.times.size - 1 := by omega
  have hxn : x.isNaN = false := (le_iff.mp hx0).2.1
  have hmono : ∀ i j, i ≤ j → j < s.times.size - 1 → mids.getD i 0 ≤ mids.getD j 0 := by
    intro i j hij hj
    rw [hmid (by omega), hmid hj]
    exact midpoint_mono hstart hinc hij hj
  have hnan : ∀ j < s.times.size - 1, (mids.getD j 0).isNaN = false := by
    intro j hj
    rw [hmid hj]
    exact (le_iff.mp (zero_le_midpoint (zero_le_knot hstart hinc hn (by omega))
      (zero_le_knot hstart hinc hn (by omega)))).2.1
  have hsearch := firstIndex_lt_eq_iff (β := fun i => mids.getD i 0) hn hmono hnan hxn
  rw [Periodic.quadraticPiece_eq_ite]
  generalize hf : firstIndex (s.times.size - 1) (fun i => decide (x < mids.getD i 0)) = f
  have hspec := (hsearch f).mp hf
  have hnot : ∀ j < s.times.size - 1, ¬ x < mids.getD j 0 ↔ mids.getD j 0 ≤ x := fun j hj =>
    ⟨le_of_not_lt hxn (hnan j hj), fun h => not_lt_of_le h⟩
  constructor
  · intro h
    split_ifs at h with hfn
    · obtain ⟨rfl, rfl⟩ := Prod.mk.inj h
      rcases hspec with ⟨hlt, -⟩ | ⟨-, hlast⟩
      · omega
      · exact Or.inr ⟨hlast, rfl, rfl⟩
    · obtain ⟨rfl, rfl⟩ := Prod.mk.inj h
      rcases hspec with ⟨hlt, hxk, hbefore⟩ | ⟨hfn', -⟩
      · refine Or.inl ⟨hlt, hxk, fun j hj => (hnot j (by omega)).mpr (hbefore j hj), ?_, rfl⟩
        split_ifs with h0
        · exact hx0
        · exact hbefore (f - 1) (by omega)
      · exact absurd hfn' hfn
  · rintro (⟨hk, hxk, hbefore, -, rfl⟩ | ⟨hlast, rfl, rfl⟩)
    · have hfk : f = k := hf.symm.trans ((hsearch k).mpr
        (Or.inl ⟨hk, hxk, fun j hj => (hnot j (by omega)).mp (hbefore j hj)⟩))
      rw [if_neg (by omega), hfk]
    · have hfn : f = s.times.size - 1 := hf.symm.trans ((hsearch _).mpr (Or.inr ⟨rfl, hlast⟩))
      rw [if_pos hfn]

end Binary64

/-! ## Offsets over exact arithmetic -/

section Exact

open Airspace.Exact

variable {solve : Linear.Matrix ℝ → Array ℝ → Option (Array ℝ)} {t y : Array ℝ} {degree : Int}
  {s : Periodic ℝ} {b c mids : Array ℝ}

/-- Over exact arithmetic the parabola that evaluates a point `x ∈ [0, period]` is centred near
it. For the parabola of knot `k`, whose midpoint lies beyond `x` while `x` is at or above the
midpoint before it, the offset of `x` from `tₖ` is less than half the segment after the knot and
at least minus half the segment before it (from zero for the first knot). When no midpoint lies
beyond `x`, the wrap-around parabola is used, measured from the period, and the offset lies between
minus half the last segment and zero. Every midpoint is at most the last, the knots being
increasing. -/
theorem Periodic.quadraticPiece_offset_mem (hfit : Periodic.fitWith solve t y degree = .ok s)
    (hs : s.pieces = .quadratic b c mids) {x : ℝ} (hx0 : 0 ≤ x) (hx : x ≤ s.period) {k : ℕ}
    {u : ℝ} (h : s.quadraticPiece mids x = (k, u)) :
    ((t.getD (t.size - 1 - 1) 0 + t.getD (t.size - 1) 0) / 2 ≤ x →
        k = 0 ∧ -((t.getD (t.size - 1) 0 - t.getD (t.size - 1 - 1) 0) / 2) ≤ u ∧ u ≤ 0) ∧
      (x < (t.getD (t.size - 1 - 1) 0 + t.getD (t.size - 1) 0) / 2 →
        k < t.size - 1 ∧ (k = 0 → 0 ≤ u ∧ u < (t.getD 1 0 - t.getD 0 0) / 2) ∧
        (0 < k → -((t.getD k 0 - t.getD (k - 1) 0) / 2) ≤ u ∧
          u < (t.getD (k + 1) 0 - t.getD k 0) / 2)) := by
  have hmid : ∀ {j}, j < t.size - 1 → mids.getD j 0 = (t.getD j 0 + t.getD (j + 1) 0) / 2 :=
    fun hj => by simpa using Periodic.getD_mids hfit hs hj
  have hv := (checkKnots_eq_ok.mp (fitWith_eq_ok hfit).1).1
  obtain ⟨-, rfl⟩ := Periodic.fitWith_ok hfit
  have hn := hv.two_le
  have hlastMid : ∀ i < s.times.size - 1, mids.getD i 0 ≤
      (s.times.getD (s.times.size - 1 - 1) 0 + s.times.getD (s.times.size - 1) 0) / 2 := by
    intro i hi
    rw [hmid hi]
    have := hv.le_of_le (by omega : i ≤ s.times.size - 1 - 1) (by omega)
    have := hv.le_of_le (by omega : i + 1 ≤ s.times.size - 1) le_rfl
    linarith
  obtain ⟨-, -, hindex, -⟩ := Periodic.shape_quadratic hs
  obtain ⟨hle, hbelow, hat⟩ :=
    firstIndex_spec (s.times.size - 1) fun i => decide (x < mids.getD i 0)
  rw [Periodic.quadraticPiece_eq hs, hindex] at h
  simp only [ofNat_zero] at h
  obtain ⟨rfl, rfl⟩ := Prod.mk.inj h
  rw [Periodic.period_eq] at hx
  generalize firstIndex (s.times.size - 1) (fun i => decide (x < mids.getD i 0)) = j
    at hle hbelow hat ⊢
  simp only [decide_eq_true_eq, decide_eq_false_iff_not, not_lt] at hbelow hat
  rcases hle.lt_or_eq with hj | rfl
  · have hxj := hat hj
    rw [Nat.mod_eq_of_lt hj]
    refine ⟨fun hwrap => absurd (hxj.trans_le (hlastMid j hj)) (not_lt.mpr hwrap),
      fun _ => ⟨hj, fun hj0 => ?_, fun hjpos => ?_⟩⟩
    · subst hj0
      rw [hmid hj] at hxj
      have h0 := hv.start
      constructor <;> linarith
    · have hprev := hbelow (j - 1) (by omega)
      rw [hmid (by omega), show j - 1 + 1 = j by omega] at hprev
      rw [hmid hj] at hxj
      constructor <;> linarith
  · rw [Nat.mod_self]
    have hlast := hbelow (s.times.size - 1 - 1) (by omega)
    rw [hmid (by omega), show s.times.size - 1 - 1 + 1 = s.times.size - 1 by omega] at hlast
    exact ⟨fun _ => ⟨rfl, by linarith, by linarith⟩, fun hlt => absurd hlast (not_le.mpr hlt)⟩

end Exact

/-! ## Finding the piece of a point -/

/-- A fitted spline finds the piece that holds a point. Over binary64, as the program runs,
the segment of `x ≥ 0` is the one with `tᵢ ≤ x < tᵢ₊₁`, or the last one from the period on;
the parabola of `x` is the first whose computed midpoint lies beyond `x`, or the wrap-around
parabola of the period from the last midpoint on. Over exact arithmetic the offset of a point
of `[0, period]` from the knot of its parabola lies within half a segment of that knot. -/
theorem Periodic.search_finds_enclosing_piece :
    (∀ (solve : Linear.Matrix Float → Array Float → Option (Array Float)) (t y : Array Float)
        (degree : Int) (s : Periodic Float), Periodic.fitWith solve t y degree = .ok s →
      ∀ x : Float, 0 ≤ x →
        (∀ i, s.segment x = i ↔ (i < t.size - 1 ∧ t.getD i 0 ≤ x ∧ x < t.getD (i + 1) 0) ∨
          (s.period ≤ x ∧ i = t.size - 1 - 1)) ∧
        ∀ b c mids : Array Float, s.pieces = .quadratic b c mids → ∀ (k : ℕ) (u : Float),
          (s.quadraticPiece mids x = (k, u) ↔
            (k < t.size - 1 ∧ x < mids.getD k 0 ∧ (∀ j < k, ¬ x < mids.getD j 0) ∧
                (if k = 0 then 0 else mids.getD (k - 1) 0) ≤ x ∧ u = x - t.getD k 0) ∨
              (mids.getD (t.size - 1 - 1) 0 ≤ x ∧ k = 0 ∧ u = x - s.period))) ∧
    (∀ (solve : Linear.Matrix ℝ → Array ℝ → Option (Array ℝ)) (t y : Array ℝ) (degree : Int)
        (s : Periodic ℝ) (b c mids : Array ℝ), Periodic.fitWith solve t y degree = .ok s →
      s.pieces = .quadratic b c mids → ∀ x : ℝ, 0 ≤ x → x ≤ s.period →
        ∀ (k : ℕ) (u : ℝ), s.quadraticPiece mids x = (k, u) →
          ((t.getD (t.size - 1 - 1) 0 + t.getD (t.size - 1) 0) / 2 ≤ x →
              k = 0 ∧ -((t.getD (t.size - 1) 0 - t.getD (t.size - 1 - 1) 0) / 2) ≤ u ∧ u ≤ 0) ∧
            (x < (t.getD (t.size - 1 - 1) 0 + t.getD (t.size - 1) 0) / 2 →
              k < t.size - 1 ∧ (k = 0 → 0 ≤ u ∧ u < (t.getD 1 0 - t.getD 0 0) / 2) ∧
              (0 < k → -((t.getD k 0 - t.getD (k - 1) 0) / 2) ≤ u ∧
                u < (t.getD (k + 1) 0 - t.getD k 0) / 2))) :=
  ⟨fun _ _ _ _ _ hfit _ hx0 => ⟨Periodic.segment_eq_iff hfit hx0,
      fun _ _ _ hs => Periodic.quadraticPiece_eq_iff hfit hs hx0⟩,
    fun _ _ _ _ _ _ _ _ hfit hs _ hx0 hx _ _ h => Periodic.quadraticPiece_offset_mem hfit hs hx0 hx h⟩

/-- Knots `0, 1, 2` with values `0, 1, 0`, fitted in binary64 with degree 2 by a solver that
returns zero coefficients: the fit succeeds, `1` lies in the second segment, and so does the
period. -/
theorem Periodic.search_finds_enclosing_piece_three_knots :
    ∃ s, Periodic.fitWith (fun _ _ => some #[0, 0, 0, 0]) (#[0, 1, 2] : Array Float) #[0, 1, 0] 2
      = .ok s ∧ s.segment 1 = 1 ∧ s.segment 2 = 1 := by
  have hok : (Periodic.fitWith (fun _ _ => some #[0, 0, 0, 0]) (#[0, 1, 2] : Array Float)
      #[0, 1, 0] 2).isOk = true := by decide +kernel
  obtain ⟨s, hfit⟩ : ∃ s, Periodic.fitWith (fun _ _ => some #[0, 0, 0, 0])
      (#[0, 1, 2] : Array Float) #[0, 1, 0] 2 = .ok s := by
    revert hok
    cases Periodic.fitWith (fun _ _ => some #[0, 0, 0, 0]) (#[0, 1, 2] : Array Float)
      #[0, 1, 0] 2 with
    | error _ => simp [Except.isOk, Except.toBool]
    | ok s => exact fun _ => ⟨s, rfl⟩
  have hperiod : s.period = 2 := by
    rw [Periodic.period_eq_getD, (Periodic.fitWith_ok hfit).2]
    rfl
  have hsearch := Periodic.search_finds_enclosing_piece.1 _ _ _ _ _ hfit
  refine ⟨s, hfit, ((hsearch 1 (by decide)).1 1).mpr (Or.inl ⟨by decide, by decide, by decide⟩),
    ((hsearch 2 (by decide)).1 1).mpr (Or.inr ⟨?_, rfl⟩)⟩
  rw [hperiod]
  decide

end Airspace.Spline
