import Airspace.Obstacle.Circuit
import Airspace.Spline.Evaluate
import Airspace.Time.Instant

/-!
# Trajectories: a circuit flown as a closed curve in time

A trajectory fits one periodic spline through the circuit's latitudes, one
through its longitudes and one through its altitudes, all with the arrival times
as knots and the return to the first waypoint as the last knot. Splines are
cubic from three waypoints on and quadratic for two. The period is the last
arrival time.

An instant is placed on the trajectory by its lap time: the seconds since
1970-01-01T00:00:00Z reduced modulo the period into `[0, period)`. The heading
is the direction of travel in degrees clockwise from north, from the latitude
and longitude derivatives, the longitude rate scaled by the cosine of the
latitude.
-/

namespace Airspace.Obstacle

open Airspace.Geo Airspace.Spline Airspace.Scalar Airspace.Time

variable {α : Type} [Scalar α]

/-- The three coordinate splines of a circuit flown at constant speed. -/
structure Trajectory (α : Type) where
  period : α
  arrivalTimes : Array α
  latitude : Periodic α
  longitude : Periodic α
  altitude : Periodic α

/-- The coordinate a spline of a trajectory follows. -/
inductive Axis where
  | latitude | longitude | altitude
  deriving Repr, DecidableEq

/-- The name of a coordinate, as error texts use it. -/
def Axis.name : Axis → String
  | .latitude => "latitude"
  | .longitude => "longitude"
  | .altitude => "altitude"

/-- Why a trajectory cannot be built. -/
inductive TrajectoryError where
  /-- A travel time could not be computed. -/
  | travel (e : TravelError)
  /-- The spline of one coordinate could not be fitted. -/
  | fit (axis : Axis) (e : FitError)
  deriving Repr, DecidableEq

/-- The text of a trajectory error. -/
def TrajectoryError.message : TrajectoryError → String
  | .travel e => e.message
  | .fit axis e => axis.name ++ " spline: " ++ e.message

/-- The knot values of one coordinate: each waypoint's, then the first again. -/
def closedValues (circuit : Array (Waypoint α)) (coord : Position α → α) : Array α :=
  let n := circuit.size
  (Array.range (n + 1)).map fun i => coord (circuit.getD (i % n) ⟨0, Position.origin⟩).position

/-- Fits the trajectory of a circuit flown at a speed in knots, the splines' systems
solved by `solve`. -/
def buildTrajectoryWith (solve : Linear.Matrix α → Array α → Option (Array α))
    (circuit : Array (Waypoint α)) (speed : α) : Except TrajectoryError (Trajectory α) := do
  let travel ← (travelTimes circuit speed).mapError .travel
  let arrivals := arrivalTimes travel
  let n := circuit.size
  let degree : Int := if n ≥ 3 then 3 else 2
  let fitAxis := fun (axis : Axis) (coord : Position α → α) =>
    (Periodic.fitWith solve arrivals (closedValues circuit coord) degree).mapError (.fit axis)
  let lat ← fitAxis .latitude Position.latitude
  let lon ← fitAxis .longitude Position.longitude
  let alt ← fitAxis .altitude Position.altitudeMsl
  return ⟨arrivals.getD n 0, arrivals, lat, lon, alt⟩

/-- Fits the trajectory of a circuit flown at a speed in knots. -/
def buildTrajectory (circuit : Array (Waypoint α)) (speed : α) :
    Except TrajectoryError (Trajectory α) :=
  buildTrajectoryWith Linear.solve circuit speed

/-- The position at a lap time, or the fault of an evaluation outside the period. -/
def Trajectory.at (t : Trajectory α) (sec : α) : Except (DomainFault α) (Position α) := do
  let lat ← t.latitude.eval sec
  let lon ← t.longitude.eval sec
  let alt ← t.altitude.eval sec
  return ⟨lat, lon, alt⟩

/-- The heading in degrees `[0, 360)` at a lap time, or the fault of an evaluation
outside the period. -/
def Trajectory.heading (t : Trajectory α) (sec : α) : Except (DomainFault α) α := do
  let north ← t.latitude.derivative sec
  let lonRate ← t.longitude.derivative sec
  let lat ← t.latitude.eval sec
  let east := lonRate * cos (lat * pi / 180)
  let hdg := atan2 east north * 180 / pi
  return if hdg < 0 then hdg + 360 else hdg

/-- The seconds since 1970-01-01T00:00:00Z of an instant. -/
def epochSeconds (ts : Timestamp) : α :=
  ofInt ts.unix + ofNat ts.nanos / 1e9

/-- The time into the current lap: the epoch seconds modulo the period, moved
into `[0, period)`. -/
def lapTime (ts : Timestamp) (period : α) : α :=
  let r := rem (epochSeconds ts) period
  let r := if r < 0 then r + period else r
  if r ≥ period then 0 else r

end Airspace.Obstacle
