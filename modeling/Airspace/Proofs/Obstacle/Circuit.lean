import Mathlib.Algebra.Order.BigOperators.Group.Finset
import Airspace.Proofs.Geo.Coincidence
import Airspace.Proofs.Obstacle.Dedupe

/-!
# Circuits have legs of positive length

Over exact arithmetic two waypoints coincide exactly when they name the same place
(`Position.distance_eq_zero_iff`), and naming the same place is an equivalence. So coinciding
is symmetric and transitive among any waypoints (`coincidenceTransitive_exact`), and collapsing
coincident waypoints leaves no two consecutive ones, nor the last and the first, in one place:
every leg of a circuit of two or more waypoints, the closing one included, joins two
waypoints `Apart` and has positive length (`dedupe_legs_apart`).

Flown at a positive speed the travel times are then a leading zero and the positive time
of each leg (`travelTimes_eq_ok`, `legTime_pos`); the arrival times, their running sums,
start at zero and strictly increase (`getD_arrivalTimes_travel`).
-/

namespace Airspace.Obstacle

open Airspace.Geo Airspace.Exact

/-! ## Coincident waypoints -/

/-- Two waypoints at different places: the leg between them has positive length. -/
def Apart (a b : Waypoint ℝ) : Prop := a.position.place ≠ b.position.place

theorem Apart.symm {a b : Waypoint ℝ} (h : Apart a b) : Apart b a := fun hab => h hab.symm

theorem waypointDistance_eq_zero_iff {a b : Waypoint ℝ} :
    waypointDistance a b = 0 ↔ a.position.place = b.position.place :=
  Position.distance_eq_zero_iff

theorem waypointDistance_ne_zero_iff {a b : Waypoint ℝ} :
    (waypointDistance a b != 0) = true ↔ Apart a b := by
  simp only [bne_iff_ne, ne_eq, waypointDistance_eq_zero_iff, Apart]

theorem waypointDistance_pos {a b : Waypoint ℝ} (h : Apart a b) : 0 < waypointDistance a b :=
  lt_of_le_of_ne (Position.distance_nonneg _ _)
    (fun hzero => h (waypointDistance_eq_zero_iff.mp hzero.symm))

/-- Over exact arithmetic a waypoint coincides with another exactly when they name the same
place. -/
theorem coincide_iff_place {a b : Waypoint ℝ} :
    Coincide a b ↔ a.position.place = b.position.place := by
  rw [Coincide, beq_iff_eq, ofNat_zero, waypointDistance_eq_zero_iff]

/-- Naming the same place is an equivalence, so among any waypoints coinciding is symmetric
and transitive. -/
theorem coincidenceTransitive_exact (ws : List (Waypoint ℝ)) : CoincidenceTransitive ws where
  symm _ _ _ _ hab := coincide_iff_place.mpr (coincide_iff_place.mp hab).symm
  trans _ _ _ _ _ _ hab hbc :=
    coincide_iff_place.mpr ((coincide_iff_place.mp hab).trans (coincide_iff_place.mp hbc))

/-- Every leg of a circuit of two or more waypoints joins two waypoints apart, the
closing leg from the last waypoint back to the first included. -/
theorem dedupe_legs_apart {ws : List (Waypoint ℝ)} (hn : 2 ≤ (dedupe ws).length) :
    ∀ i < (dedupe ws).length, Apart ((dedupe ws).getD i ⟨0, Position.origin⟩)
      ((dedupe ws).getD ((i + 1) % (dedupe ws).length) ⟨0, Position.origin⟩) := by
  intro i hi hsame
  exact ((coincidenceTransitive_exact ws).dedupe_legs_apart hn i hi).1
    (coincide_iff_place.mpr hsame)

/-! ## Travel and arrival times -/

/-- The accumulation of arrival times pushes one entry per travel time and keeps what was
pushed before. -/
theorem foldl_arrival_keeps {β : Type} [Add β] {f : β × Array β → β → β × Array β}
    (hf : ∀ s out t, f (s, out) t = (s + t, out.push (s + t))) (l : List β) (s : β)
    (out : Array β) (d : β) :
    (l.foldl f (s, out)).2.size = out.size + l.length ∧
      ∀ k < out.size, (l.foldl f (s, out)).2.getD k d = out.getD k d := by
  induction l generalizing s out with
  | nil => exact ⟨rfl, fun _ _ => rfl⟩
  | cons x l ih =>
    obtain ⟨hsize, hkeep⟩ := ih (s + x) (out.push (s + x))
    rw [List.foldl_cons, hf]
    refine ⟨by rw [hsize, Array.size_push, List.length_cons]; omega, fun k hk => ?_⟩
    rw [hkeep k (by rw [Array.size_push]; omega), Array.getD_eq_getD_getElem?,
      Array.getD_eq_getD_getElem?, Array.getElem?_push_lt hk, Array.getElem?_eq_getElem hk]

section Travel

variable {α : Type} [Scalar α]

/-- The time in seconds to fly leg `i` of a circuit, from waypoint `i` to the next, the
last leg back to the first. -/
def legTime (c : Array (Waypoint α)) (speed : α) (i : Nat) : α :=
  waypointDistance (c.getD i ⟨0, Position.origin⟩)
    (c.getD ((i + 1) % c.size) ⟨0, Position.origin⟩) / knotsToFeetPerSecond speed

theorem segmentTravelTime_eq_ok {c : Array (Waypoint α)} {speed : α} (hn : 2 ≤ c.size)
    (hs : ¬ speed ≤ 0) {i : Nat} (hi : i < c.size) :
    segmentTravelTime c (Int.ofNat (i % c.size)) (Int.ofNat ((i + 1) % c.size)) speed =
      .ok (legTime c speed i) := by
  have hsrc := Nat.mod_lt i (show 0 < c.size by omega)
  have hdst := Nat.mod_lt (i + 1) (show 0 < c.size by omega)
  unfold segmentTravelTime
  simp only [Int.ofNat_eq_natCast]
  rw [if_neg (by omega), if_neg (by omega), if_neg (by omega), if_neg hs]
  simp only [Int.toNat_natCast, Nat.mod_eq_of_lt hi]
  rfl

theorem mapM_eq_ok {ε β γ : Type} {f : β → Except ε γ} {g : β → γ} {l : List β}
    (h : ∀ x ∈ l, f x = .ok (g x)) : l.mapM f = .ok (l.map g) := by
  induction l with
  | nil => rfl
  | cons x l ih =>
    rw [List.mapM_cons, h x List.mem_cons_self, ih fun y hy => h y (List.mem_cons_of_mem x hy)]
    rfl

/-- At a speed that is not refused, the travel times are a leading zero and the time of
each leg in order. -/
theorem travelTimes_eq_ok {c : Array (Waypoint α)} {speed : α} (hn : 2 ≤ c.size)
    (hs : ¬ speed ≤ 0) :
    travelTimes c speed = .ok (#[0] ++ ((List.range c.size).map (legTime c speed)).toArray) := by
  have hlegs := mapM_eq_ok (f := fun (i : Nat) =>
      segmentTravelTime c (Int.ofNat (i % c.size)) (Int.ofNat ((i + 1) % c.size)) speed)
    (fun i hi => segmentTravelTime_eq_ok hn hs (List.mem_range.mp hi))
  unfold travelTimes
  rw [if_neg (by omega)]
  simp only [hlegs]
  rfl

theorem arrivalTimes_size (travel : Array α) : (arrivalTimes travel).size = travel.size := by
  unfold arrivalTimes
  rw [← Array.foldl_toList, (foldl_arrival_keeps (fun _ _ _ => rfl) _ _ _ 0).1, Array.size_empty,
    Nat.zero_add, Array.length_toList]

end Travel

/-- Over exact arithmetic the accumulation from running sum `s` writes, after what it was
given, `s` plus the sum of each leading run of travel times. The entry pushed for `x` is kept by the
rest of the run. -/
theorem foldl_arrival_sum {f : ℝ × Array ℝ → ℝ → ℝ × Array ℝ}
    (hf : ∀ s out t, f (s, out) t = (s + t, out.push (s + t))) (l : List ℝ) (s : ℝ)
    (out : Array ℝ) {k : Nat} (hk : k < l.length) :
    (l.foldl f (s, out)).2.getD (out.size + k) 0 = s + ∑ i ∈ Finset.range (k + 1), l.getD i 0 := by
  induction l generalizing s out k with
  | nil => exact absurd hk (Nat.not_lt_zero k)
  | cons x l ih =>
    rw [List.foldl_cons, hf, Finset.sum_range_succ']
    cases k with
    | zero =>
      rw [Nat.add_zero, (foldl_arrival_keeps hf l (s + x) (out.push (s + x)) 0).2 _ (by simp),
        Array.getD_eq_getD_getElem?, Array.getElem?_push_size]
      simp
    | succ k =>
      have hrest := ih (s + x) (out.push (s + x)) (k := k) (by simpa using hk)
      rw [Array.size_push] at hrest
      rw [show out.size + (k + 1) = out.size + 1 + k by omega, hrest]
      simp only [List.getD_cons_succ, List.getD_cons_zero]
      ring

/-- Arrival `k` is the sum of the first `k + 1` travel times. -/
theorem getD_arrivalTimes (travel : Array ℝ) {k : Nat} (hk : k < travel.size) :
    (arrivalTimes travel).getD k 0 = ∑ i ∈ Finset.range (k + 1), travel.getD i 0 := by
  have hsum := foldl_arrival_sum
    (f := fun (acc : ℝ × Array ℝ) t => let s := acc.1 + t; (s, acc.2.push s))
    (fun _ _ _ => rfl) travel.toList 0 #[] (k := k) (by simpa using hk)
  rw [Array.size_empty, Nat.zero_add, zero_add] at hsum
  unfold arrivalTimes
  rw [← Array.foldl_toList, ofNat_zero]
  simpa [Array.getD_eq_getD_getElem?, List.getD_eq_getElem?_getD] using hsum

/-- After the leading zero, arrival `k` is the time to fly the first `k` legs. -/
theorem getD_arrivalTimes_travel (legs : List ℝ) {k : Nat} (hk : k ≤ legs.length) :
    (arrivalTimes (#[0] ++ legs.toArray)).getD k 0 = ∑ i ∈ Finset.range k, legs.getD i 0 := by
  rw [getD_arrivalTimes _ (by simp; omega), Finset.sum_range_succ']
  simp [Array.getD_eq_getD_getElem?, List.getD_eq_getElem?_getD]

/-- At a positive speed a leg between waypoints apart takes a positive time. -/
theorem legTime_pos {c : Array (Waypoint ℝ)} {speed : ℝ} (hs : 0 < speed) {i : Nat}
    (h : Apart (c.getD i ⟨0, Position.origin⟩) (c.getD ((i + 1) % c.size) ⟨0, Position.origin⟩)) :
    0 < legTime c speed i := by
  have hknot : (0 : ℝ) < feetPerSecondPerKnot := by
    simp only [feetPerSecondPerKnot]
    norm_num
  exact div_pos (waypointDistance_pos h) (mul_pos hs hknot)

end Airspace.Obstacle
