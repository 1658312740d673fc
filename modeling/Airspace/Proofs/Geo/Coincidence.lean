import Mathlib.Analysis.SpecialFunctions.Complex.Arg
import Mathlib.Analysis.SpecialFunctions.Trigonometric.Basic
import Airspace.Proofs.Exact.Real
import Airspace.Geo.Distance

/-!
# When two positions are at distance zero

Over exact arithmetic the haversine term `a = sin²(Δφ/2) + cos φ₁ cos φ₂ sin²(Δλ/2)` is a
quarter of the squared chord between the two points of the unit sphere that the
latitudes and longitudes name. So it is never negative, and the great-circle distance is
zero exactly when the two points coincide. No range of the coordinates is needed, and no
relation of the constant `pi` to `π`: both points are taken with the same factor.

The distance in the airspace adds the altitude difference as the other leg of a right
triangle, so two positions are at distance zero exactly when they name the same place: the
same point of the sphere and the same altitude (`Position.distance_eq_zero_iff`). Being at
distance zero is therefore an equivalence, and distances are symmetric in being zero.
-/

namespace Airspace.Geo

open Airspace.Exact

/-- The point of the unit sphere at a latitude and longitude in degrees, turned into
radians by the factor the distances use. -/
noncomputable def surfacePoint (lat lon : ℝ) : ℝ × ℝ × ℝ :=
  (Real.cos (degreesToRadians lat) * Real.cos (degreesToRadians lon),
    Real.cos (degreesToRadians lat) * Real.sin (degreesToRadians lon),
    Real.sin (degreesToRadians lat))

/-- The place a position names: the point of the unit sphere under it and its altitude. -/
noncomputable def Position.place (p : Position ℝ) : (ℝ × ℝ × ℝ) × ℝ :=
  (surfacePoint p.latitude p.longitude, p.altitudeMsl)

/-- The squared chord between two points of space. -/
def chordSq (u v : ℝ × ℝ × ℝ) : ℝ :=
  (u.1 - v.1) ^ 2 + (u.2.1 - v.2.1) ^ 2 + (u.2.2 - v.2.2) ^ 2

theorem chordSq_nonneg (u v : ℝ × ℝ × ℝ) : 0 ≤ chordSq u v := by
  unfold chordSq
  positivity

theorem chordSq_eq_zero_iff {u v : ℝ × ℝ × ℝ} : chordSq u v = 0 ↔ u = v := by
  obtain ⟨u₁, u₂, u₃⟩ := u
  obtain ⟨v₁, v₂, v₃⟩ := v
  have h₁ := sq_nonneg (u₁ - v₁)
  have h₂ := sq_nonneg (u₂ - v₂)
  have h₃ := sq_nonneg (u₃ - v₃)
  simp only [chordSq, Prod.mk.injEq]
  constructor
  · intro h
    refine ⟨?_, ?_, ?_⟩ <;> nlinarith
  · rintro ⟨rfl, rfl, rfl⟩
    ring

/-- The haversine term is a quarter of the squared chord: with `sin²(x/2) = (1 - cos x)/2`
and the cosine of a difference, both sides are `(1 - sin φ₁ sin φ₂ - cos φ₁ cos φ₂ cos Δλ)/2`. -/
theorem haversineTerm_eq (φ₁ θ₁ φ₂ θ₂ : ℝ) :
    Real.sin ((φ₂ - φ₁) / 2) * Real.sin ((φ₂ - φ₁) / 2) +
        Real.cos φ₁ * Real.cos φ₂ * Real.sin ((θ₂ - θ₁) / 2) * Real.sin ((θ₂ - θ₁) / 2) =
      chordSq (Real.cos φ₁ * Real.cos θ₁, Real.cos φ₁ * Real.sin θ₁, Real.sin φ₁)
        (Real.cos φ₂ * Real.cos θ₂, Real.cos φ₂ * Real.sin θ₂, Real.sin φ₂) / 4 := by
  have hhalf : ∀ x : ℝ, Real.sin (x / 2) * Real.sin (x / 2) = 1 / 2 - Real.cos x / 2 := by
    intro x
    rw [← sq, Real.sin_sq_eq_half_sub, mul_div_cancel₀ x two_ne_zero]
  rw [hhalf, mul_assoc (Real.cos φ₁ * Real.cos φ₂), hhalf, Real.cos_sub, Real.cos_sub]
  unfold chordSq
  linear_combination (-1 / 4 : ℝ) * Real.sin_sq_add_cos_sq φ₁ +
    (-1 / 4 : ℝ) * Real.sin_sq_add_cos_sq φ₂ +
    (-(Real.cos φ₁) ^ 2 / 4) * Real.sin_sq_add_cos_sq θ₁ +
    (-(Real.cos φ₂) ^ 2 / 4) * Real.sin_sq_add_cos_sq θ₂

/-- The great-circle distance, exactly: the earth's radius times twice the angle whose
sine and cosine are the square roots of the haversine term and of its complement. -/
theorem haversine_eq (lat₁ lon₁ lat₂ lon₂ : ℝ) :
    haversine lat₁ lon₁ lat₂ lon₂ = meanEarthRadius * (2 * Complex.arg
      ⟨Real.sqrt (1 - chordSq (surfacePoint lat₁ lon₁) (surfacePoint lat₂ lon₂) / 4),
        Real.sqrt (chordSq (surfacePoint lat₁ lon₁) (surfacePoint lat₂ lon₂) / 4)⟩) := by
  have hlat : degreesToRadians (lat₂ - lat₁) = degreesToRadians lat₂ - degreesToRadians lat₁ := by
    simp only [degreesToRadians]
    ring
  have hlon : degreesToRadians (lon₂ - lon₁) = degreesToRadians lon₂ - degreesToRadians lon₁ := by
    simp only [degreesToRadians]
    ring
  simp only [haversine, sin_eq, cos_eq, sqrt_eq, atan2_eq, ofNat_one, hlat, hlon,
    haversineTerm_eq, surfacePoint]

/-- The great-circle distance is zero exactly when the two points of the sphere coincide. -/
theorem haversine_eq_zero_iff {lat₁ lon₁ lat₂ lon₂ : ℝ} :
    haversine lat₁ lon₁ lat₂ lon₂ = 0 ↔ surfacePoint lat₁ lon₁ = surfacePoint lat₂ lon₂ := by
  have hradius : (meanEarthRadius : ℝ) ≠ 0 := by
    simp only [meanEarthRadius]
    norm_num
  have hchord := chordSq_nonneg (surfacePoint lat₁ lon₁) (surfacePoint lat₂ lon₂)
  rw [haversine_eq, mul_eq_zero, or_iff_right hradius, mul_eq_zero, or_iff_right two_ne_zero,
    Complex.arg_eq_zero_iff, ← chordSq_eq_zero_iff]
  simp only [Real.sqrt_nonneg, true_and, Real.sqrt_eq_zero']
  constructor
  · intro h
    linarith
  · intro h
    rw [h]
    norm_num

/-- Two positions are at distance zero exactly when they name the same place. -/
theorem Position.distance_eq_zero_iff {a b : Position ℝ} :
    a.distance b = 0 ↔ a.place = b.place := by
  have hfeet : (feetPerMeter : ℝ) ≠ 0 := by
    simp only [feetPerMeter]
    norm_num
  simp only [Position.distance, Geo.distance, horizontalDistance, metersToFeet, hypot_eq,
    Position.place, Prod.mk.injEq]
  rw [Real.sqrt_eq_zero (by positivity), add_eq_zero_iff_of_nonneg (sq_nonneg _) (sq_nonneg _),
    sq_eq_zero_iff, sq_eq_zero_iff, mul_eq_zero, or_iff_left hfeet, haversine_eq_zero_iff,
    sub_eq_zero, eq_comm (a := b.altitudeMsl)]

theorem Position.distance_nonneg (a b : Position ℝ) : 0 ≤ a.distance b := by
  simp only [Position.distance, Geo.distance, hypot_eq]
  exact Real.sqrt_nonneg _

end Airspace.Geo
