import Airspace.Geo.Units
import Airspace.Geo.Position

/-!
# Distances on a spherical earth

The horizontal distance of two positions is the great-circle distance on a
sphere of the mean earth radius, by the haversine formula
`a = sin²(Δφ/2) + cos φ₁ cos φ₂ sin²(Δλ/2)`, `c = 2 atan2(√a, √(1-a))`. The
distance in the airspace combines it, in feet, with the difference of altitudes
as the two legs of a right triangle.
-/

namespace Airspace.Geo

open Airspace.Scalar

variable {α : Type} [Scalar α]

/-- The mean radius of the earth in metres. -/
def meanEarthRadius : α := 6371008.8

/-- π as the binary64 value nearest to it, the factor of every angle conversion. -/
def pi : α := 3.14159265358979323846264338327950288419716939937510582097494459

/-- Degrees as radians. -/
def degreesToRadians (d : α) : α := d * pi / 180

/-- The great-circle distance in metres between two latitude/longitude pairs. -/
def haversine (lat1 lon1 lat2 lon2 : α) : α :=
  let dLat := degreesToRadians (lat2 - lat1)
  let dLon := degreesToRadians (lon2 - lon1)
  let a := sin (dLat / 2) * sin (dLat / 2) +
    cos (degreesToRadians lat1) * cos (degreesToRadians lat2) * sin (dLon / 2) * sin (dLon / 2)
  let c := 2 * atan2 (sqrt a) (sqrt (1 - a))
  meanEarthRadius * c

/-- The great-circle distance in feet, altitudes ignored. -/
def horizontalDistance (latA lonA latB lonB : α) : α :=
  metersToFeet (haversine latA lonA latB lonB)

/-- The distance in feet, from the horizontal distance and the altitude difference. -/
def distance (latA lonA altA latB lonB altB : α) : α :=
  hypot (horizontalDistance latA lonA latB lonB) (altB - altA)

/-- The distance in feet between two positions. -/
def Position.distance (a b : Position α) : α :=
  Geo.distance a.latitude a.longitude a.altitudeMsl b.latitude b.longitude b.altitudeMsl

end Airspace.Geo
