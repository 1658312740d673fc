import Airspace.Geo.Position
import Airspace.Time.Instant

/-!
# Telemetry samples

A telemetry sample is one report of a vehicle: its id, the instant of the fix,
its position, and its heading in degrees.
-/

namespace Airspace.Telemetry

open Airspace.Geo Airspace.Time

/-- One position report of a vehicle. -/
structure Sample where
  vehicle : String
  timestamp : Timestamp
  position : Position Float
  heading : Float

end Airspace.Telemetry
