import Mathlib.Algebra.Order.Floor.Ring
import Airspace.Proofs.Obstacle.Circuit
import Airspace.Proofs.Spline.Smooth
import Airspace.Obstacle.Moving

/-!
# Obstacles fly their circuits on schedule

Over exact arithmetic, an obstacle whose circuit has two or more waypoints and whose speed
is positive flies a trajectory, whatever the coordinates, as long as its solver solves
nonsingular systems:

* every leg of the circuit has positive length (`dedupe_legs_apart`), so the arrival
  times start at zero and strictly increase, and the knots of every coordinate are valid;
* the coordinate systems are then nonsingular, and each coordinate fits, cubic from three
  waypoints on and quadratic for two;
* each fitted coordinate passes through its knots, so at arrival time `k` the trajectory is
  at waypoint `k` (the last arrival closing the loop at the first waypoint);
* the lap time of an instant is its exact seconds since 1970 reduced modulo the period into
  `[0, period)`, before and after 1970 alike (`lapTime_eq`).

So in every lap the obstacle is at waypoint `k` exactly at arrival time `k`.
-/

namespace Airspace.Obstacle

open Airspace.Geo Airspace.Spline Airspace.Exact Airspace.Linear Airspace.Time

/-! ## Lap times -/

/-- The epoch seconds of an instant, exactly: its nanoseconds since 1970 over `10⁹`. -/
theorem epochSeconds_eq (ts : Timestamp) :
    (epochSeconds ts : ℝ) = (ts.epochNanos : ℝ) / 1000000000 := by
  have hbillion : (1e9 : ℝ) = 1000000000 := by norm_num
  simp only [epochSeconds, scalar_ofInt, scalar_ofNat, Timestamp.epochNanos, nanosPerSecond]
  rw [hbillion]
  push_cast
  ring

/-- Over exact arithmetic the lap time is the epoch seconds reduced modulo the period into
`[0, period)`: the truncated remainder, moved up by a period when negative. For a quotient that
is not negative the truncated quotient is the floor, and the remainder is already in `[0, p)`;
for a negative one it is the ceiling and the remainder lies in `(-p, 0]`, which a fractional
quotient, whose floor is one below its ceiling, moves up and a whole one leaves at zero. -/
theorem lapTime_eq (ts : Timestamp) {p : ℝ} (hp : 0 < p) :
    lapTime ts p = (epochSeconds ts : ℝ) - p * ⌊(epochSeconds ts : ℝ) / p⌋ := by
  unfold lapTime
  simp only [rem_eq, ofNat_zero]
  generalize (epochSeconds ts : ℝ) = x
  have hfloor := Int.floor_le (x / p)
  have hfloor' := Int.lt_floor_add_one (x / p)
  have hceil := Int.le_ceil (x / p)
  have hceil' := Int.ceil_lt_add_one (x / p)
  have hmul : p * (x / p) = x := by field_simp
  by_cases hsign : 0 ≤ x / p
  · have hlo : 0 ≤ x - p * ⌊x / p⌋ := by nlinarith
    have hhi : x - p * ⌊x / p⌋ < p := by nlinarith
    rw [if_pos hsign, if_neg (not_lt.mpr hlo), if_neg (not_le.mpr hhi)]
  · rw [if_neg hsign]
    have hhi : x - p * ⌈x / p⌉ ≤ 0 := by nlinarith
    by_cases hneg : x - p * ⌈x / p⌉ < 0
    · have hfrac : ⌊x / p⌋ = ⌈x / p⌉ - 1 := by
        rw [Int.floor_eq_iff]
        push_cast
        constructor
        · linarith
        · nlinarith
      have hlt : x - p * ⌈x / p⌉ + p < p := by linarith
      rw [if_pos hneg, if_neg (not_le.mpr hlt), hfrac]
      push_cast
      ring
    · have hzero : x - p * ⌈x / p⌉ = 0 := le_antisymm hhi (not_lt.mp hneg)
      have hwhole : ⌊x / p⌋ = ⌈x / p⌉ := by
        rw [Int.floor_eq_iff]
        constructor
        · nlinarith
        · nlinarith
      rw [if_neg hneg, hzero, if_neg (not_le.mpr hp), hwhole, hzero]

/-- An instant a whole number of periods after lap time `x ∈ [0, p)` has lap time `x`. -/
theorem lapTime_of_lap (ts : Timestamp) {p x : ℝ} (hp : 0 < p) (hx₀ : 0 ≤ x) (hx : x < p)
    {z : ℤ} (hts : (ts.epochNanos : ℝ) / 1000000000 = x + z * p) : lapTime ts p = x := by
  rw [lapTime_eq ts hp, epochSeconds_eq, hts]
  have hquot : (x + z * p) / p = x / p + z := by
    field_simp
  have hfloor : ⌊(x + z * p) / p⌋ = z := by
    rw [hquot, Int.floor_add_intCast, Int.floor_eq_zero_iff.mpr ⟨div_nonneg hx₀ hp.le,
      (div_lt_one hp).mpr hx⟩, zero_add]
  rw [hfloor]
  ring

/-! ## The knots of a circuit -/

theorem size_closedValues {α : Type} [Scalar α] (c : Array (Waypoint α)) (coord : Position α → α) :
    (closedValues c coord).size = c.size + 1 := by
  simp [closedValues]

/-- Knot value `k` of a coordinate is that coordinate of waypoint `k`, taken cyclically. -/
theorem getD_closedValues (c : Array (Waypoint ℝ)) (coord : Position ℝ → ℝ) {k : Nat}
    (hk : k ≤ c.size) :
    (closedValues c coord).getD k 0 = coord (c.getD (k % c.size) ⟨0, Position.origin⟩).position := by
  simp [closedValues, Array.getD_eq_getD_getElem?, Nat.lt_succ_of_le hk]

section Knots

variable {c : Array (Waypoint ℝ)} {speed : ℝ} (hn : 2 ≤ c.size) (hs : 0 < speed)
  (hlegs : ∀ i < c.size, Apart (c.getD i ⟨0, Position.origin⟩)
    (c.getD ((i + 1) % c.size) ⟨0, Position.origin⟩))

theorem size_arrivals :
    (arrivalTimes (#[0] ++ ((List.range c.size).map (legTime c speed)).toArray)).size =
      c.size + 1 := by
  rw [arrivalTimes_size]
  simp

/-- Arrival `k` is the time to fly the first `k` legs. -/
theorem getD_arrivals {k : Nat} (hk : k ≤ c.size) :
    (arrivalTimes (#[0] ++ ((List.range c.size).map (legTime c speed)).toArray)).getD k 0 =
      ∑ i ∈ Finset.range k, legTime c speed i := by
  rw [getD_arrivalTimes_travel _ (by simpa using hk)]
  refine Finset.sum_congr rfl fun i hi => ?_
  have hic : i < c.size := (Finset.mem_range.mp hi).trans_le hk
  simp [List.getD_eq_getElem?_getD, hic]

include hn hs hlegs in
/-- Flown at a positive speed with every leg between waypoints apart, a circuit of two or
more waypoints gives valid knots for every coordinate: the arrival times, against that
coordinate of each waypoint with the first repeated at the end. Consecutive arrivals differ by the
time of a leg between waypoints apart, and the last knot value is the first waypoint's again. -/
theorem knotsValid_arrivals (coord : Position ℝ → ℝ) :
    KnotsValid (arrivalTimes (#[0] ++ ((List.range c.size).map (legTime c speed)).toArray))
      (closedValues c coord) := by
  have hsize := @size_arrivals c speed
  refine ⟨by rw [hsize, size_closedValues], by omega, ?_, fun k hk => ?_, ?_⟩
  · rw [getD_arrivals (Nat.zero_le _), Finset.sum_range_zero]
  · rw [hsize, Nat.add_sub_cancel] at hk
    rw [getD_arrivals hk.le, getD_arrivals (Nat.succ_le_of_lt hk), Finset.sum_range_succ]
    exact lt_add_of_pos_right _ (legTime_pos hs (hlegs k hk))
  · rw [hsize, Nat.add_sub_cancel, getD_closedValues _ _ le_rfl,
      getD_closedValues _ _ (Nat.zero_le _), Nat.mod_self, Nat.zero_mod]

end Knots

/-- A circuit of `n` waypoints is fitted with degree 3 from three waypoints on and degree
2 for two. With valid knots and a solver of nonsingular systems that fit succeeds. -/
theorem fitWith_circuit_isOk {solve : Linear.Matrix ℝ → Array ℝ → Option (Array ℝ)}
    (hsolve : SolvesNonsingular solve) {t y : Array ℝ} (hv : KnotsValid t y) (n : Nat) :
    ∃ s, Periodic.fitWith solve t y (if n ≥ 3 then 3 else 2) = .ok s ∧
      s.degree = if 3 ≤ n then 3 else 2 := by
  by_cases hcubic : n ≥ 3
  · obtain ⟨m, -, hfit⟩ := fitWith_cubic_isOk hv hsolve
    rw [if_pos hcubic, if_pos hcubic]
    exact ⟨_, hfit, cubicSpline_degree t y m⟩
  · obtain ⟨x, -, hfit⟩ := fitWith_quadratic_isOk hv hsolve
    rw [if_neg hcubic, if_neg hcubic]
    exact ⟨_, hfit, quadraticSpline_degree t y x⟩

/-! ## Trajectories through a circuit -/

/-- A trajectory that flies the circuit `c` on schedule at `speed`: `n + 1` arrival times,
arrival `k` being the time to fly the first `k` legs, from zero and strictly increasing, the
last being the period; coordinate splines of degree 3 from three waypoints on and of degree
2 for two; and at arrival `k` the position of waypoint `k`, the last arrival back at the
first waypoint. -/
structure FliesCircuit (traj : Trajectory ℝ) (c : Array (Waypoint ℝ)) (speed : ℝ) : Prop where
  size_arrivalTimes : traj.arrivalTimes.size = c.size + 1
  arrival_eq : ∀ k ≤ c.size, traj.arrivalTimes.getD k 0 = ∑ i ∈ Finset.range k, legTime c speed i
  start : traj.arrivalTimes.getD 0 0 = 0
  increasing : ∀ k < c.size, traj.arrivalTimes.getD k 0 < traj.arrivalTimes.getD (k + 1) 0
  period_eq : traj.period = traj.arrivalTimes.getD c.size 0
  degree_latitude : traj.latitude.degree = if 3 ≤ c.size then 3 else 2
  degree_longitude : traj.longitude.degree = if 3 ≤ c.size then 3 else 2
  degree_altitude : traj.altitude.degree = if 3 ≤ c.size then 3 else 2
  at_arrival : ∀ k ≤ c.size, traj.at (traj.arrivalTimes.getD k 0) =
    .ok (c.getD (k % c.size) ⟨0, Position.origin⟩).position

/-- Over exact arithmetic, with a solver of nonsingular systems, a circuit of two or more
waypoints whose legs join waypoints apart, flown at a positive speed, has a trajectory, and
that trajectory flies the circuit on schedule. Each coordinate passes through its knot values at the
arrival times. -/
theorem buildTrajectoryWith_flies {solve : Linear.Matrix ℝ → Array ℝ → Option (Array ℝ)}
    (hsolve : SolvesNonsingular solve) {c : Array (Waypoint ℝ)} {speed : ℝ} (hn : 2 ≤ c.size)
    (hs : 0 < speed) (hlegs : ∀ i < c.size, Apart (c.getD i ⟨0, Position.origin⟩)
      (c.getD ((i + 1) % c.size) ⟨0, Position.origin⟩)) :
    ∃ traj, buildTrajectoryWith solve c speed = .ok traj ∧ FliesCircuit traj c speed := by
  have htravel := @travelTimes_eq_ok ℝ _ c speed hn (by rw [ofNat_zero]; exact not_le.mpr hs)
  rw [ofNat_zero] at htravel
  have hknots := knotsValid_arrivals hn hs hlegs
  have hsize := @size_arrivals c speed
  set t := arrivalTimes (#[0] ++ ((List.range c.size).map (legTime c speed)).toArray) with ht
  obtain ⟨slat, hlat, hdlat⟩ := fitWith_circuit_isOk hsolve (hknots Position.latitude) c.size
  obtain ⟨slon, hlon, hdlon⟩ := fitWith_circuit_isOk hsolve (hknots Position.longitude) c.size
  obtain ⟨salt, halt, hdalt⟩ := fitWith_circuit_isOk hsolve (hknots Position.altitudeMsl) c.size
  refine ⟨⟨t.getD c.size 0, t, slat, slon, salt⟩, ?_, ?_⟩
  · simp only [buildTrajectoryWith, htravel, Except.mapError, bind, Except.bind, ← ht]
    simp only [hlat, hlon, halt, ofNat_zero]
    rfl
  · refine ⟨hsize, fun k hk => getD_arrivals hk, (hknots Position.latitude).start,
      fun k hk => (hknots Position.latitude).increasing k (by omega), rfl, hdlat, hdlon, hdalt,
      fun k hk => ?_⟩
    have hknot : ∀ {s : Periodic ℝ} {coord : Position ℝ → ℝ},
        Periodic.fitWith solve t (closedValues c coord) (if c.size ≥ 3 then 3 else 2) = .ok s →
          s.eval (t.getD k 0) = .ok (coord (c.getD (k % c.size) ⟨0, Position.origin⟩).position) := by
      intro s coord hfit
      rw [Periodic.fitWith_eval_knot hfit (by omega), getD_closedValues c coord hk]
    simp only [Trajectory.at, hknot hlat, hknot hlon, hknot halt]
    rfl

namespace FliesCircuit

variable {traj : Trajectory ℝ} {c : Array (Waypoint ℝ)} {speed : ℝ} (h : FliesCircuit traj c speed)
  (hn : 0 < c.size)
include h hn

omit hn in
/-- Every arrival before the last lies in `[0, period)`. -/
theorem arrival_mem {k : Nat} (hk : k < c.size) :
    0 ≤ traj.arrivalTimes.getD k 0 ∧ traj.arrivalTimes.getD k 0 < traj.period := by
  have hlast : traj.arrivalTimes.getD k 0 < traj.period := by
    rw [h.period_eq]
    exact lt_of_succ_lt (β := fun j => traj.arrivalTimes.getD j 0) h.increasing hk le_rfl
  refine ⟨?_, hlast⟩
  rcases Nat.eq_zero_or_pos k with rfl | hpos
  · rw [h.start]
  · have hfirst := lt_of_succ_lt (β := fun j => traj.arrivalTimes.getD j 0) h.increasing hpos hk.le
    rw [h.start] at hfirst
    exact hfirst.le

theorem period_pos : 0 < traj.period := by
  obtain ⟨hzero, hlt⟩ := h.arrival_mem hn
  exact hzero.trans_lt hlt

/-- At every instant a whole number of periods after arrival `k`, before or after 1970,
the trajectory is at waypoint `k`: an arrival inside the lap is a knot, and the last arrival is
the start of the next lap, at the first waypoint. -/
theorem at_lap {ts : Timestamp} {k : Nat} (hk : k ≤ c.size) {z : ℤ}
    (hts : (ts.epochNanos : ℝ) / 1000000000 = traj.arrivalTimes.getD k 0 + z * traj.period) :
    traj.at (lapTime ts traj.period) = .ok (c.getD (k % c.size) ⟨0, Position.origin⟩).position := by
  have hp := h.period_pos hn
  rcases Nat.lt_or_eq_of_le hk with hlt | rfl
  · obtain ⟨h₀, h₁⟩ := h.arrival_mem hlt
    rw [lapTime_of_lap ts hp h₀ h₁ hts]
    exact h.at_arrival k hk
  · have hnext : (ts.epochNanos : ℝ) / 1000000000 = 0 + ((z + 1 : ℤ) : ℝ) * traj.period := by
      rw [hts, ← h.period_eq]
      push_cast
      ring
    rw [lapTime_of_lap ts hp le_rfl hp hnext, Nat.mod_self, ← h.start]
    simpa using h.at_arrival 0 (Nat.zero_le _)

end FliesCircuit

/-- A circuit of two or more waypoints with every leg between waypoints apart, flown at a
positive speed, flies a trajectory through the circuit. -/
theorem motionOfWith_flies {solve : Linear.Matrix ℝ → Array ℝ → Option (Array ℝ)}
    (hsolve : SolvesNonsingular solve) {circuit : List (Waypoint ℝ)} {speed : ℝ}
    (hn : 2 ≤ circuit.length) (hs : 0 < speed)
    (hlegs : ∀ i < circuit.length, Apart (circuit.getD i ⟨0, Position.origin⟩)
      (circuit.getD ((i + 1) % circuit.length) ⟨0, Position.origin⟩)) :
    ∃ traj, motionOfWith solve circuit speed = .flying traj ∧
      FliesCircuit traj circuit.toArray speed := by
  have hlegs' : ∀ i < circuit.toArray.size, Apart (circuit.toArray.getD i ⟨0, Position.origin⟩)
      (circuit.toArray.getD ((i + 1) % circuit.toArray.size) ⟨0, Position.origin⟩) := by
    intro i hi
    simpa [Array.getD_eq_getD_getElem?, List.getD_eq_getElem?_getD] using hlegs i (by simpa using hi)
  obtain ⟨traj, hbuild, hflies⟩ :=
    buildTrajectoryWith_flies hsolve (by simpa using hn) hs hlegs'
  have hmoving : isStationary circuit speed = false := by
    simp only [isStationary, ofNat_zero, Bool.or_eq_false_iff, decide_eq_false_iff_not, not_lt,
      not_le]
    exact ⟨hn, hs⟩
  refine ⟨traj, ?_, hflies⟩
  simp only [motionOfWith, hmoving, hbuild]
  rfl

/-- Over exact arithmetic, with a solver of nonsingular systems, an obstacle whose circuit
has two or more waypoints and whose speed is positive flies a trajectory, whatever its
coordinates; the trajectory flies the circuit on schedule (`FliesCircuit`: its splines
have degree 3 from three waypoints on and 2 for two, and at arrival `k` it is at waypoint
`k`); the obstacle's position at an instant is the trajectory at the instant's lap time,
which is its exact seconds since 1970 reduced modulo the period into `[0, period)`; and so
at every instant a whole number of periods after arrival `k`, before or after 1970, the
obstacle is at waypoint `k`. The obstacle flies, and its position is the trajectory's at the lap
time. -/
theorem newWith_flies_circuit_on_schedule
    {solve : Linear.Matrix ℝ → Array ℝ → Option (Array ℝ)} (hsolve : SolvesNonsingular solve)
    (id : Nat) (waypoints : List (Waypoint ℝ)) {speed : ℝ} (radius : ℝ) (hspeed : 0 < speed)
    (hn : 2 ≤ (MovingObstacle.newWith solve id waypoints speed radius).circuit.length) :
    let o := MovingObstacle.newWith solve id waypoints speed radius
    ∃ traj, o.trajectory? = some traj ∧ FliesCircuit traj o.circuit.toArray speed ∧
      (∀ ts, o.positionAt ts = traj.at (lapTime ts traj.period) ∧
        lapTime ts traj.period = (ts.epochNanos : ℝ) / 1000000000 -
          traj.period * ⌊(ts.epochNanos : ℝ) / 1000000000 / traj.period⌋) ∧
      ∀ (ts : Timestamp) (k : Nat) (z : ℤ), k ≤ o.circuit.length →
        (ts.epochNanos : ℝ) / 1000000000 = traj.arrivalTimes.getD k 0 + z * traj.period →
        o.positionAt ts =
          .ok (o.circuit.getD (k % o.circuit.length) ⟨0, Position.origin⟩).position := by
  intro o
  have hlong : 2 ≤ o.circuit.length := hn
  obtain ⟨traj, hmotion, hflies⟩ : ∃ traj, o.motion = .flying traj ∧
      FliesCircuit traj o.circuit.toArray speed :=
    motionOfWith_flies hsolve hn hspeed (dedupe_legs_apart hn)
  have hsize : 0 < o.circuit.toArray.size := by
    simp only [List.size_toArray]
    omega
  obtain ⟨first, rest, hcons⟩ := List.exists_cons_of_ne_nil (List.ne_nil_of_length_pos
    (show 0 < o.circuit.length by omega))
  have hposition : ∀ ts, o.positionAt ts = traj.at (lapTime ts traj.period) := by
    intro ts
    simp only [MovingObstacle.positionAt, hcons, hmotion]
  refine ⟨traj, ?_, hflies, fun ts => ⟨hposition ts, ?_⟩, fun ts k z hk hts => ?_⟩
  · simp only [MovingObstacle.trajectory?, hmotion]
  · rw [lapTime_eq ts (hflies.period_pos hsize), epochSeconds_eq]
  · rw [hposition ts, hflies.at_lap hsize (by simpa using hk) hts]
    simp [Array.getD_eq_getD_getElem?, List.getD_eq_getElem?_getD]

/-- Two waypoints at the same latitude and longitude, a thousand feet apart in altitude,
flown at 100 knots with exact solving: the circuit keeps both, and the obstacle flies it on
schedule. -/
theorem newWith_flies_circuit_on_schedule_stacked :
    SolvesNonsingular exactSolve ∧ (0 : ℝ) < 100 ∧
      2 ≤ (MovingObstacle.newWith exactSolve 0 [⟨0, ⟨0, 0, 0⟩⟩, ⟨1, ⟨0, 0, 1000⟩⟩] (100 : ℝ)
        50).circuit.length ∧
      ∃ traj, (MovingObstacle.newWith exactSolve 0 [⟨0, ⟨0, 0, 0⟩⟩, ⟨1, ⟨0, 0, 1000⟩⟩] (100 : ℝ)
          50).trajectory? = some traj ∧
        FliesCircuit traj (MovingObstacle.newWith exactSolve 0 [⟨0, ⟨0, 0, 0⟩⟩,
          ⟨1, ⟨0, 0, 1000⟩⟩] (100 : ℝ) 50).circuit.toArray 100 := by
  set low : Waypoint ℝ := ⟨0, ⟨0, 0, 0⟩⟩ with hlow
  set high : Waypoint ℝ := ⟨1, ⟨0, 0, 1000⟩⟩ with hhigh
  have hapart : Apart high low := by
    intro hsame
    have halt := congrArg Prod.snd hsame
    simp only [Position.place, hlow, hhigh] at halt
    norm_num at halt
  have hsorted : sortByOrder [low, high] = [low, high] :=
    List.mergeSort_of_pairwise (by simp [hlow, hhigh])
  have hkept : dropRepeats [low, high] = [low, high] := by
    simp only [dropRepeats, dropRepeats.keepMoved, ofNat_zero,
      waypointDistance_ne_zero_iff.mpr hapart, if_true]
  have hclosed : dropClosing [low, high] = [low, high] := by
    have hfar : (waypointDistance high low == 0) = false := by
      rw [beq_eq_false_iff_ne, ne_eq, waypointDistance_eq_zero_iff]
      exact hapart
    rw [dropClosing]
    simp [ofNat_zero, hfar]
  have hcircuit : (MovingObstacle.newWith exactSolve 0 [low, high] 100 50).circuit =
      [low, high] := by
    simp only [MovingObstacle.newWith, dedupe, hsorted, hkept, hclosed]
  have hlong : 2 ≤ (MovingObstacle.newWith exactSolve 0 [low, high] 100 50).circuit.length := by
    rw [hcircuit]
    rfl
  obtain ⟨traj, htraj, hflies, -⟩ := newWith_flies_circuit_on_schedule
    solvesNonsingular_exactSolve 0 [low, high] 50 (by norm_num) hlong
  exact ⟨solvesNonsingular_exactSolve, by norm_num, hlong, traj, htraj, hflies⟩

end Airspace.Obstacle
