import Airspace.Obstacle.Moving
import Airspace.Scalar.Binary64
import Airspace.Text.Utf8

/-!
# Obstacle definitions

An obstacle is defined by an id, a name, an average speed in knots, a sphere
radius in feet and its waypoints. The definition is what is stored and
exchanged; the moving obstacle is built from it.
-/

namespace Airspace.Obstacle

open Airspace.Geo

/-- The definition of an obstacle. -/
structure Definition where
  id : Nat
  /-- The name as stored: bytes, not necessarily well-formed UTF-8. -/
  name : List UInt8
  speed : Float
  radius : Float
  waypoints : List (Waypoint Float)

/-- The moving obstacle a definition describes. -/
def Definition.build (d : Definition) : MovingObstacle Float :=
  { MovingObstacle.new d.id d.waypoints d.speed d.radius with name := Text.toText d.name }

end Airspace.Obstacle
