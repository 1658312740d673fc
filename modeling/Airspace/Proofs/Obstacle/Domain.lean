import Airspace.Proofs.Binary64.Arithmetic
import Airspace.Proofs.Obstacle.Schedule
import Airspace.Obstacle.Collision

/-!
# Obstacles stay inside their splines' domains

A spline is evaluated only on `[0, period]`; anything else is a fault. An obstacle evaluates
its splines at the lap time of an instant, and this module shows, over binary64 arithmetic
as the program computes it, that the lap time always lies in `[0, period)`:

* a fitted spline accepted its knots, so its times start at zero and strictly increase, and
  its period, the last arrival time, is above zero (`period_of_fitWith`); the three splines of
  a trajectory share that period (`buildTrajectoryWith_spanned`);
* the epoch seconds of an instant are finite (`bounded_epochSeconds`), the remainder by the
  period is exact and smaller than it, or the dividend itself when the period is `+∞`, and
  the fold of a negative remainder into `[0, period)` stays there (`lapTime_mem`).

So whatever the waypoints, speed and radius, positions, headings, views and collisions
never fault (`new_never_leaves_spline_domain`).
-/

namespace Airspace.Time

/-- An instant whose whole seconds since 1970 fit a signed 64-bit count. -/
def Timestamp.InInt64Range (ts : Timestamp) : Prop := -2 ^ 63 ≤ ts.unix ∧ ts.unix < 2 ^ 63

instance (ts : Timestamp) : Decidable ts.InInt64Range := inferInstanceAs (Decidable (_ ∧ _))

end Airspace.Time

namespace Airspace.Spline

open Airspace.IEEE754

/-! ## Accepted knots -/

section Generic

variable {α : Type} [Scalar α]

/-- A successful fit checked its knots and keeps them as its times. -/
theorem Periodic.fitWith_ok {solve : Linear.Matrix α → Array α → Option (Array α)}
    {t y : Array α} {degree : Int} {s : Periodic α}
    (h : Periodic.fitWith solve t y degree = .ok s) :
    checkKnots t y degree = .ok () ∧ s.times = t := by
  obtain ⟨u, hc, h⟩ := bind_eq_ok h
  refine ⟨hc, ?_⟩
  by_cases hd : degree = 3
  · rw [if_pos hd] at h
    obtain ⟨m, -, h⟩ := bind_eq_ok h
    cases h
    rfl
  · rw [if_neg hd] at h
    obtain ⟨x, -, h⟩ := bind_eq_ok h
    cases h
    rfl

/-- What the checks of accepted knots establish, in the scalar's own comparisons. -/
theorem checkKnots_ok {t y : Array α} {degree : Int} (h : checkKnots t y degree = .ok ()) :
    t.size = y.size ∧ 3 ≤ t.size ∧ (t.getD 0 0 == 0) = true ∧
      ∀ k < t.size - 1, t.getD k 0 < t.getD (k + 1) 0 := by
  unfold checkKnots at h
  split_ifs at h with hsize hthree hdeg hstart hinc
  refine ⟨not_not.mp hsize, by omega, by simpa [bne] using hstart, ?_⟩
  simpa using hinc

end Generic

/-- Knots from zero, strictly increasing: every knot after the first is above zero. -/
theorem pos_of_increasing {t : Array Float} {n : ℕ} (hstart : (t.getD 0 0 == 0) = true)
    (hinc : ∀ k < n, t.getD k 0 < t.getD (k + 1) 0) : ∀ k < n, 0 < t.getD (k + 1) 0 := by
  intro k hk
  induction k with
  | zero => exact lt_of_beq_of_lt (BEq.symm hstart) (hinc 0 hk)
  | succ k ih => exact lt_trans (ih (by omega)) (hinc (k + 1) hk)

/-! ## Evaluation inside the period -/

section Float

variable {s : Periodic Float} {x : Float}

/-- A value in `[0, period)` lies in the domain of a spline of that period. -/
theorem Periodic.inDomain_of_lt (h0 : 0 ≤ x) (h1 : x < s.period) : s.inDomain x = true := by
  have hxn : x.isNaN = false := (le_iff.mp h0).2.1
  have hneg : ¬ x < 0 := not_lt_of_le h0
  have habove : ¬ x > s.period := lt_asymm h1
  show (!(x.isNaN || decide (x < 0) || decide (x > s.period))) = true
  rw [hxn, decide_eq_false hneg, decide_eq_false habove]
  rfl

theorem Periodic.eval_of_lt (h0 : 0 ≤ x) (h1 : x < s.period) : s.eval x = .ok (s.valueAt x) := by
  rw [Periodic.eval, if_pos (Periodic.inDomain_of_lt h0 h1)]

theorem Periodic.derivative_of_lt (h0 : 0 ≤ x) (h1 : x < s.period) :
    s.derivative x = .ok (s.slopeAt x) := by
  rw [Periodic.derivative, if_pos (Periodic.inDomain_of_lt h0 h1)]

end Float

end Airspace.Spline

namespace Airspace.Obstacle

open Float.Model (UnpackedFloat)
open Airspace.Geo Airspace.Spline Airspace.Time Airspace.IEEE754 Airspace.Telemetry

/-! ## Lap times -/

/-- The epoch seconds of an instant whose whole seconds fit a signed 64-bit count are a
finite value of magnitude at most `2^67`. -/
theorem bounded_epochSeconds {ts : Timestamp} (hts : ts.InInt64Range) :
    Bounded 67 (view (epochSeconds ts : Float)) := by
  have hunix : Bounded 65 (view (Float.ofInt ts.unix)) := by
    refine bounded_ofInt (N := 63) ?_ (by norm_num) (by norm_num)
    have : |(ts.unix : ℚ)| ≤ 2 ^ 63 := by
      rw [abs_le]
      constructor <;> [exact_mod_cast hts.1; exact_mod_cast hts.2.le]
    exact_mod_cast this
  have hnanos : Bounded 32 (view (Float.ofNat ts.nanos)) := by
    refine bounded_ofNat (N := 30) ?_ (by norm_num) (by norm_num)
    have h := ts.nanos_lt
    simp only [nanosPerSecond] at h
    have : (ts.nanos : ℚ) ≤ 2 ^ 30 := by exact_mod_cast (show ts.nanos ≤ 2 ^ 30 by omega)
    exact_mod_cast this
  have hfrac : Bounded 4 (view (Float.ofNat ts.nanos / 1e9)) := by
    rw [view_div, view_billion]
    have h : Bounded (32 - 29 + 1) (UnpackedFloat.div .binary64 (view (Float.ofNat ts.nanos))
        (.finite .positive (10 ^ 9 * 2 ^ 23) (-23) (by norm_num))) :=
      hnanos.div (M := 29) (by norm_num) (by norm_num) (by norm_num)
    rw [h.unpack_pack]
    exact h
  show Bounded 67 (view (Float.ofInt ts.unix + Float.ofNat ts.nanos / 1e9))
  have h := hunix.add (hfrac.mono (by norm_num)) (by norm_num) (by norm_num)
  rw [view_add, h.unpack_pack]
  exact h

/-- For a period above zero, finite or `+∞`, the lap time of an instant lies in
`[0, period)`, before 1970 as after. -/
theorem lapTime_mem {ts : Timestamp} (hts : ts.InInt64Range) {p : Float} (hp : 0 < p) :
    0 ≤ lapTime ts p ∧ lapTime ts p < p :=
  fold_mem (zero_le_fold (bounded_epochSeconds hts) (by norm_num) hp) hp

/-! ## Trajectories span their period -/

/-- A trajectory whose three splines span its period, which is above zero. -/
structure Trajectory.Spanned (t : Trajectory Float) : Prop where
  latitude_period : t.latitude.period = t.period
  longitude_period : t.longitude.period = t.period
  altitude_period : t.altitude.period = t.period
  period_pos : 0 < t.period

/-- A mapped error changes no success. -/
@[simp] theorem mapError_eq_ok {ε ε' β : Type} {x : Except ε β} {f : ε → ε'} {b : β} :
    x.mapError f = .ok b ↔ x = .ok b := by
  cases x <;> simp [Except.mapError]

/-- A coordinate fitted over the arrival times of a circuit ends its period at the last
arrival, which is above zero. -/
theorem period_of_fitWith {solve : Linear.Matrix Float → Array Float → Option (Array Float)}
    {c : Array (Waypoint Float)} {t : Array Float} {coord : Position Float → Float} {degree : Int}
    {s : Periodic Float} (h : Periodic.fitWith solve t (closedValues c coord) degree = .ok s) :
    s.period = t.getD c.size 0 ∧ 0 < t.getD c.size 0 := by
  obtain ⟨hk, htimes⟩ := Periodic.fitWith_ok h
  obtain ⟨hsize, hthree, hstart, hinc⟩ := checkKnots_ok hk
  rw [size_closedValues] at hsize
  have hlast : c.size - 1 + 1 = c.size := by omega
  refine ⟨by rw [Periodic.period, htimes, hsize, Nat.add_sub_cancel], ?_⟩
  rw [← hlast]
  exact pos_of_increasing hstart hinc (c.size - 1) (by omega)

/-- A trajectory that was built spans its period with all three splines. -/
theorem buildTrajectoryWith_spanned
    {solve : Linear.Matrix Float → Array Float → Option (Array Float)}
    {c : Array (Waypoint Float)} {speed : Float} {traj : Trajectory Float}
    (h : buildTrajectoryWith solve c speed = .ok traj) : traj.Spanned := by
  obtain ⟨travel, -, h⟩ := bind_eq_ok h
  obtain ⟨lat, hlat, h⟩ := bind_eq_ok h
  obtain ⟨lon, hlon, h⟩ := bind_eq_ok h
  obtain ⟨alt, halt, h⟩ := bind_eq_ok h
  cases h
  obtain ⟨hlatp, hpos⟩ := period_of_fitWith (mapError_eq_ok.mp hlat)
  exact ⟨hlatp, (period_of_fitWith (mapError_eq_ok.mp hlon)).1,
    (period_of_fitWith (mapError_eq_ok.mp halt)).1, hpos⟩

namespace Trajectory.Spanned

variable {traj : Trajectory Float} (ht : traj.Spanned) {x : Float} (h0 : 0 ≤ x)
  (h1 : x < traj.period)
include ht h0 h1

/-- Inside the period the trajectory is the three splines' values. -/
theorem at_eq : traj.at x =
    .ok ⟨traj.latitude.valueAt x, traj.longitude.valueAt x, traj.altitude.valueAt x⟩ := by
  simp only [Trajectory.at, Periodic.eval_of_lt h0 (ht.latitude_period ▸ h1),
    Periodic.eval_of_lt h0 (ht.longitude_period ▸ h1),
    Periodic.eval_of_lt h0 (ht.altitude_period ▸ h1)]
  rfl

theorem heading_ok : ∃ hdg, traj.heading x = .ok hdg := by
  simp only [Trajectory.heading, Periodic.derivative_of_lt h0 (ht.latitude_period ▸ h1),
    Periodic.derivative_of_lt h0 (ht.longitude_period ▸ h1),
    Periodic.eval_of_lt h0 (ht.latitude_period ▸ h1)]
  exact ⟨_, rfl⟩

end Trajectory.Spanned

/-- An obstacle whose trajectory, when it flies one, spans its period. -/
def MovingObstacle.Spanned (o : MovingObstacle Float) : Prop :=
  ∀ t, o.motion = .flying t → t.Spanned

/-- Every obstacle flies only trajectories that span their period, whatever its waypoints,
speed and radius, and whatever solver fitted its splines. -/
theorem MovingObstacle.newWith_spanned
    (solve : Linear.Matrix Float → Array Float → Option (Array Float))
    (id : ℕ) (waypoints : List (Waypoint Float)) (speed radius : Float) :
    (MovingObstacle.newWith solve id waypoints speed radius).Spanned := by
  intro t ht
  simp only [MovingObstacle.newWith, motionOfWith] at ht
  split at ht
  · cases ht
  · split at ht
    · cases ht
      exact buildTrajectoryWith_spanned ‹_›
    · cases ht

namespace MovingObstacle.Spanned

variable {o : MovingObstacle Float} (ho : o.Spanned)
include ho

/-- The lap time of an instant lies in the period of a flown trajectory. -/
theorem flying_lapTime_mem {t : Trajectory Float} (ht : o.motion = .flying t) {ts : Timestamp}
    (hts : ts.InInt64Range) : 0 ≤ lapTime ts t.period ∧ lapTime ts t.period < t.period :=
  Obstacle.lapTime_mem hts (ho t ht).period_pos

/-- The position at an instant never faults: a flown trajectory is evaluated inside its
period, and a stationary obstacle evaluates nothing. -/
theorem positionAt_ok {ts : Timestamp} (hts : ts.InInt64Range) :
    ∃ p, o.positionAt ts = .ok p := by
  unfold MovingObstacle.positionAt
  split
  · exact ⟨_, rfl⟩
  · split
    · rename_i t ht
      obtain ⟨h0, h1⟩ := ho.flying_lapTime_mem ht hts
      exact ⟨_, (ho t ht).at_eq h0 h1⟩
    · exact ⟨_, rfl⟩

theorem headingAt_ok {ts : Timestamp} (hts : ts.InInt64Range) : ∃ h, o.headingAt ts = .ok h := by
  unfold MovingObstacle.headingAt
  split
  · rename_i t ht
    obtain ⟨h0, h1⟩ := ho.flying_lapTime_mem ht hts
    exact (ho t ht).heading_ok h0 h1
  · exact ⟨_, rfl⟩

theorem view_ok {ts : Timestamp} (hts : ts.InInt64Range) : ∃ v, o.view ts = .ok v := by
  obtain ⟨p, hp⟩ := ho.positionAt_ok hts
  exact ⟨⟨p, o.radius⟩, by simp [MovingObstacle.view, hp]⟩

/-- Scanning a track for its first collision never faults, whether it stops early or not. -/
theorem firstCollision_ok {samples : List Sample}
    (hs : ∀ s ∈ samples, s.timestamp.InInt64Range) :
    ∃ hit, o.firstCollision samples = .ok hit := by
  induction samples with
  | nil => exact ⟨none, rfl⟩
  | cons s rest ih =>
    obtain ⟨c, hc⟩ := ho.positionAt_ok (hs s List.mem_cons_self)
    obtain ⟨hit, hrest⟩ := ih fun s' hs' => hs s' (List.mem_cons_of_mem s hs')
    by_cases hd : c.distance s.position ≤ o.radius
    · refine ⟨some ⟨s, c, c.distance s.position⟩, ?_⟩
      simp only [MovingObstacle.firstCollision, hc, bind, Except.bind, if_pos hd]
      rfl
    · refine ⟨hit, ?_⟩
      simp only [MovingObstacle.firstCollision, hc, bind, Except.bind, if_neg hd, hrest]

theorem collides_ok {samples : List Sample} (hs : ∀ s ∈ samples, s.timestamp.InInt64Range) :
    ∃ b, o.collides samples = .ok b := by
  obtain ⟨hit, h⟩ := ho.firstCollision_ok hs
  exact ⟨hit.isSome, by simp [MovingObstacle.collides, h]⟩

end MovingObstacle.Spanned

/-- The collisions of a track with every obstacle never fault. -/
theorem evaluateCollisions_ok {obstacles : List (MovingObstacle Float)}
    (ho : ∀ o ∈ obstacles, o.Spanned)
    {samples : List Sample} (hs : ∀ s ∈ samples, s.timestamp.InInt64Range) :
    ∃ bs, evaluateCollisions obstacles samples = .ok bs := by
  induction obstacles with
  | nil => exact ⟨[], rfl⟩
  | cons o rest ih =>
    obtain ⟨b, hb⟩ := (ho o List.mem_cons_self).collides_ok hs
    obtain ⟨bs, hbs⟩ := ih fun o' h' => ho o' (List.mem_cons_of_mem o h')
    unfold evaluateCollisions at hbs ⊢
    rw [List.mapM_cons, hb, hbs]
    exact ⟨b :: bs, rfl⟩

/-! ## No evaluation outside the domain -/

theorem MovingObstacle.trajectory?_eq_some {o : MovingObstacle Float} {t : Trajectory Float} :
    o.trajectory? = some t ↔ o.motion = .flying t := by
  unfold MovingObstacle.trajectory?
  split <;> simp_all

/-- Obstacles never evaluate a spline outside its domain. Take obstacles made by
`MovingObstacle.new` from any waypoints, speed and radius, and instants whose whole seconds
since 1970 fit a signed 64-bit count. The position, heading and view at an instant, the first
collision and the collision flag of a track, and the collisions of all the obstacles are then
computed without a domain fault. A trajectory that an obstacle flies has three splines of its
own period; that period is above zero, which excludes NaN; and the lap time of the instant
lies in `[0, period)`. -/
theorem new_never_leaves_spline_domain (obstacles : List (MovingObstacle Float))
    (hbuilt : ∀ o ∈ obstacles, ∃ id waypoints speed radius,
      o = MovingObstacle.new id waypoints speed radius)
    (samples : List Sample) (hs : ∀ s ∈ samples, s.timestamp.InInt64Range)
    (ts : Timestamp) (hts : ts.InInt64Range) :
    (∀ o ∈ obstacles,
      (∃ p, o.positionAt ts = .ok p) ∧ (∃ h, o.headingAt ts = .ok h) ∧
      (∃ v, o.view ts = .ok v) ∧ (∃ hit, o.firstCollision samples = .ok hit) ∧
      (∃ b, o.collides samples = .ok b) ∧
      ∀ t, o.trajectory? = some t →
        t.latitude.period = t.period ∧ t.longitude.period = t.period ∧
        t.altitude.period = t.period ∧ 0 < t.period ∧
        0 ≤ lapTime ts t.period ∧ lapTime ts t.period < t.period) ∧
    ∃ bs, evaluateCollisions obstacles samples = .ok bs := by
  have hspanned : ∀ o ∈ obstacles, o.Spanned := by
    intro o ho
    obtain ⟨id, waypoints, speed, radius, rfl⟩ := hbuilt o ho
    exact MovingObstacle.newWith_spanned _ id waypoints speed radius
  refine ⟨fun o ho => ?_, evaluateCollisions_ok hspanned hs⟩
  have hso := hspanned o ho
  refine ⟨hso.positionAt_ok hts, hso.headingAt_ok hts, hso.view_ok hts, hso.firstCollision_ok hs,
    hso.collides_ok hs, fun t ht => ?_⟩
  have hflying := MovingObstacle.trajectory?_eq_some.mp ht
  obtain ⟨hlat, hlon, halt, hpos⟩ := hso t hflying
  exact ⟨hlat, hlon, halt, hpos, hso.flying_lapTime_mem hflying hts⟩

/-- An obstacle flying between two waypoints, over a track of one sample half a second
before 1970, when the remainder of the epoch seconds by the period is negative. -/
theorem new_never_leaves_spline_domain_before_epoch :
    let o : MovingObstacle Float :=
      MovingObstacle.new 1 [⟨0, ⟨0, 0, 0⟩⟩, ⟨1, ⟨1, 1, 0⟩⟩] 100 50
    let ts : Timestamp := ⟨-1, 500000000, 0, by decide⟩
    let samples : List Sample := [⟨"", ts, Position.origin, 0⟩]
    (∀ s ∈ samples, s.timestamp.InInt64Range) ∧ ts.InInt64Range ∧
      (∃ p, o.positionAt ts = .ok p) ∧ (∃ b, o.collides samples = .ok b) ∧
      ∃ bs, evaluateCollisions [o] samples = .ok bs := by
  intro o ts samples
  have hs : ∀ s ∈ samples, s.timestamp.InInt64Range := by decide
  have hts : ts.InInt64Range := by decide
  obtain ⟨ho, hall⟩ := new_never_leaves_spline_domain [o]
    (fun _ h => ⟨_, _, _, _, List.mem_singleton.mp h⟩) samples hs ts hts
  obtain ⟨hpos, -, -, -, hcol, -⟩ := ho o List.mem_cons_self
  exact ⟨hs, hts, hpos, hcol, hall⟩

end Airspace.Obstacle
