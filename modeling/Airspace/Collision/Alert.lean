import Airspace.Telemetry.Wire

/-!
# Collision alerts

An alert says that a vehicle's sample lay inside an obstacle's sphere: which
obstacle and vehicle, the sample, the obstacle's centre at the sample's time,
their distance and the sphere's radius (feet), and when the alert was raised.
As JSON its members come in that order.
-/

namespace Airspace.Collision

open Airspace.Telemetry Airspace.Time Airspace.Geo Airspace.Json

/-- A vehicle found inside an obstacle's sphere. -/
structure Alert where
  obstacleId : Nat
  vehicle : String
  sample : Sample
  obstacle : Position Float
  distance : Float
  sphereRadius : Float
  detectedAt : Timestamp

/-- An alert as a JSON object. -/
def Alert.encode (a : Alert) : Except EncodeError Value := do
  let sample ← a.sample.encode
  let obstacle ← encodePosition a.obstacle
  return .object [("obstacle_id", Value.ofInt a.obstacleId), ("vehicle", .string a.vehicle),
    ("sample", sample), ("obstacle", .object obstacle), ("distance_ft", ← encodeNumber a.distance),
    ("sphere_radius_ft", ← encodeNumber a.sphereRadius), ("detected_at", ← encodeTime a.detectedAt)]

end Airspace.Collision
