import Airspace.Scalar.Basic

/-!
# Positions and waypoints

A position is a latitude and longitude in degrees and an altitude above mean
sea level in feet. A waypoint is a position with an order key; a circuit visits
waypoints by ascending order.
-/

namespace Airspace.Geo

variable {α : Type} [Scalar α]

/-- A point in the airspace: degrees and feet above mean sea level. -/
structure Position (α : Type) where
  latitude : α
  longitude : α
  altitudeMsl : α

/-- The position at latitude, longitude and altitude zero. -/
def Position.origin : Position α := ⟨0, 0, 0⟩

/-- A position with the order in which a circuit visits it. -/
structure Waypoint (α : Type) where
  order : Int
  position : Position α

/-- Whether a latitude and longitude lie in `[-90, 90] × [-180, 180]`; NaN does not. -/
def validCoordinate (lat lon : α) : Bool :=
  lat ≥ -90 && lat ≤ 90 && lon ≥ -180 && lon ≤ 180

end Airspace.Geo
