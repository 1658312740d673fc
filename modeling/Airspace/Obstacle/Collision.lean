import Airspace.Obstacle.Moving
import Airspace.Scalar.Binary64
import Airspace.Telemetry.Sample

/-!
# Collisions of a vehicle's track with an obstacle

A sample collides with an obstacle when the vehicle is within the obstacle's
radius of the obstacle's centre at the sample's instant. The first collision of
a track is the earliest sample, in track order, that does; the distance is
reported with it.
-/

namespace Airspace.Obstacle

open Airspace.Geo Airspace.Spline Airspace.Telemetry

/-- A sample inside an obstacle, the obstacle's centre then, and their distance. -/
structure Hit where
  sample : Sample
  obstacle : Position Float
  distance : Float

/-- The first sample of the track that lies inside the obstacle. -/
def MovingObstacle.firstCollision (o : MovingObstacle Float) :
    List Sample → Except (DomainFault Float) (Option Hit)
  | [] => .ok none
  | s :: rest => do
    let center ← o.positionAt s.timestamp
    let d := center.distance s.position
    if d ≤ o.radius then return some ⟨s, center, d⟩ else o.firstCollision rest

/-- Whether some sample of the track lies inside the obstacle. -/
def MovingObstacle.collides (o : MovingObstacle Float) (samples : List Sample) :
    Except (DomainFault Float) Bool :=
  return (← o.firstCollision samples).isSome

/-- For each obstacle in order, whether the track collides with it. -/
def evaluateCollisions (obstacles : List (MovingObstacle Float)) (samples : List Sample) :
    Except (DomainFault Float) (List Bool) :=
  obstacles.mapM fun o => o.collides samples

end Airspace.Obstacle
