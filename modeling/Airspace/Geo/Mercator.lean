import Airspace.Geo.Distance
import Airspace.Scalar.Binary64

/-!
# Web Mercator coordinates

A geographic position on the WGS 84 ellipsoid is taken to earth-centred
coordinates (the polar one as `N·b²/a²·sin φ`) and back (Bowring's formula
for the latitude), which brings the longitude into `(-180, 180]`, and then
projected with the spherical Mercator formulas on the ellipsoid's semi-major
axis:
`x = a·λ`, `y = a·ln tan(π/4 + φ/2)`. The projection has no false origin, so
a negative zero comes out as zero.
-/

namespace Airspace.Geo

open Airspace.Elementary

/-- The WGS 84 semi-major axis in metres. -/
def wgs84SemiMajor : Float := 6378137

/-- The WGS 84 inverse flattening. -/
def wgs84InverseFlattening : Float := 298.257223563

/-- The flattening. -/
def wgs84Flattening : Float := 1 / wgs84InverseFlattening

/-- The semi-minor axis. -/
def wgs84SemiMinor : Float := wgs84SemiMajor * (1 - wgs84Flattening)

/-- The square of the first eccentricity, `2f - f²`. -/
def wgs84EccentricitySquared : Float := 2 * wgs84Flattening - wgs84Flattening * wgs84Flattening

/-- Radians as degrees. -/
def radiansToDegrees (r : Float) : Float := r * 180 / Elementary.pi

/-- A cube as `x · x²`. -/
def cube (x : Float) : Float := x * (x * x)

/-- Earth-centred coordinates of a longitude, latitude (degrees) and height (metres). -/
def toEarthCentred (lon lat h : Float) : Float × Float × Float :=
  let a := wgs84SemiMajor
  let e2 := wgs84EccentricitySquared
  let s := sin (degreesToRadians lat)
  let n := a / Float.sqrt (1 - e2 * (s * s))
  let x := (n + h) * cos (degreesToRadians lon) * cos (degreesToRadians lat)
  let y := (n + h) * cos (degreesToRadians lat) * sin (degreesToRadians lon)
  let b := wgs84SemiMinor
  let z := (n * (b * b) / (a * a) + h) * s
  (x, y, z)

/-- Longitude and latitude (degrees) of earth-centred coordinates, the latitude by Bowring's formula. -/
def fromEarthCentred (x y z : Float) : Float × Float :=
  let a := wgs84SemiMajor
  let b := wgs84SemiMinor
  let e2 := wgs84EccentricitySquared
  let p := Float.sqrt (x * x + y * y)
  let t := atan (z * a / (p * b))
  let lat := atan ((z + e2 * (a * a) / b * cube (sin t)) / (p - e2 * a * cube (cos t)))
  (radiansToDegrees (Elementary.atan2 y x), radiansToDegrees lat)

/-- Web Mercator easting and northing of a latitude and longitude. -/
def mercator (lat lon : Float) : Float × Float :=
  let (x, y, z) := toEarthCentred lon lat 0
  let (lon, lat) := fromEarthCentred x y z
  let east := degreesToRadians lon * wgs84SemiMajor
  let north := log (tan (degreesToRadians ((90 + lat) / 2))) * wgs84SemiMajor
  (0 + east, 0 + north)

end Airspace.Geo
