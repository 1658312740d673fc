import Airspace.Obstacle.Trajectory
import Airspace.Decimal.Notation

/-!
# Moving obstacles

A moving obstacle is a sphere of a given radius (feet) that flies its circuit
at a constant speed (knots), lap after lap, forever. Its waypoints are kept in
circuit order; the circuit and its trajectory are computed once, when the
obstacle is made.

An obstacle is stationary when its circuit has fewer than two waypoints or its
speed is not positive (NaN is neither). A stationary obstacle, and one whose
trajectory could not be fitted, stays at the first waypoint of its circuit, or
at the origin when the circuit is empty; its heading is zero.
-/

namespace Airspace.Obstacle

open Airspace.Geo Airspace.Spline Airspace.Scalar Airspace.Time

variable {α : Type} [Scalar α]

/-- How an obstacle moves. -/
inductive Motion (α : Type) where
  /-- It does not move. -/
  | stationary
  /-- It flies this trajectory. -/
  | flying (trajectory : Trajectory α)
  /-- It should fly, but its trajectory could not be built. -/
  | failed (error : TrajectoryError)

/-- A moving obstacle. -/
structure MovingObstacle (α : Type) where
  id : Nat
  name : String
  speed : α
  radius : α
  /-- The waypoints in circuit order. -/
  waypoints : List (Waypoint α)
  /-- The circuit flown: the waypoints without coincident repeats. -/
  circuit : List (Waypoint α)
  motion : Motion α

/-- Whether an obstacle with this circuit and speed stays put. -/
def isStationary (circuit : List (Waypoint α)) (speed : α) : Bool :=
  circuit.length < 2 || speed ≤ 0

/-- The motion of a circuit flown at a speed in knots, the trajectory's systems solved
by `solve`. -/
def motionOfWith (solve : Linear.Matrix α → Array α → Option (Array α))
    (circuit : List (Waypoint α)) (speed : α) : Motion α :=
  if isStationary circuit speed then .stationary
  else
    match buildTrajectoryWith solve circuit.toArray speed with
    | .ok t => .flying t
    | .error e => .failed e

/-- The motion of a circuit flown at a speed in knots. -/
def motionOf (circuit : List (Waypoint α)) (speed : α) : Motion α :=
  motionOfWith Linear.solve circuit speed

/-- The obstacle with these waypoints (in any order), speed in knots and radius in feet,
its trajectory's systems solved by `solve`. -/
def MovingObstacle.newWith (solve : Linear.Matrix α → Array α → Option (Array α)) (id : Nat)
    (waypoints : List (Waypoint α)) (speed radius : α) : MovingObstacle α :=
  let sorted := sortByOrder waypoints
  let circuit := dedupe sorted
  { id, name := "", speed, radius, waypoints := sorted, circuit,
    motion := motionOfWith solve circuit speed }

/-- The obstacle with these waypoints (in any order), speed in knots and radius in feet. -/
def MovingObstacle.new (id : Nat) (waypoints : List (Waypoint α)) (speed radius : α) :
    MovingObstacle α :=
  MovingObstacle.newWith Linear.solve id waypoints speed radius

/-- Whether the obstacle stays put. -/
def MovingObstacle.stationary (o : MovingObstacle α) : Bool := isStationary o.circuit o.speed

/-- The trajectory, when the obstacle flies one. -/
def MovingObstacle.trajectory? (o : MovingObstacle α) : Option (Trajectory α) :=
  match o.motion with
  | .flying t => some t
  | _ => none

/-- Where the obstacle is at an instant. -/
def MovingObstacle.positionAt (o : MovingObstacle α) (ts : Timestamp) :
    Except (DomainFault α) (Position α) :=
  match o.circuit with
  | [] => .ok Position.origin
  | first :: _ =>
    match o.motion with
    | .flying t => t.at (lapTime ts t.period)
    | _ => .ok first.position

/-- The direction of travel in degrees at an instant; zero when not flying. -/
def MovingObstacle.headingAt (o : MovingObstacle α) (ts : Timestamp) : Except (DomainFault α) α :=
  match o.motion with
  | .flying t => t.heading (lapTime ts t.period)
  | _ => .ok 0

/-- What a display shows of the obstacle at an instant: its centre and radius. -/
structure View (α : Type) where
  position : Position α
  radius : α

/-- The obstacle's centre and radius at an instant. -/
def MovingObstacle.view (o : MovingObstacle α) (ts : Timestamp) : Except (DomainFault α) (View α) :=
  return ⟨← o.positionAt ts, o.radius⟩

/-- A one-line description: id, speed and radius, numbers in shortest form. -/
def MovingObstacle.describe (o : MovingObstacle Float) : String :=
  "MovingObstacle (id:" ++ toString o.id ++ ", speed:" ++ messageNumber.render o.speed ++
    ", radius:" ++ messageNumber.render o.radius ++ ")"

/-- Whether `p` lies in the obstacle's sphere when centred at `center`. -/
def MovingObstacle.containsPos (o : MovingObstacle α) (center p : Position α) : Bool :=
  center.distance p ≤ o.radius

end Airspace.Obstacle
