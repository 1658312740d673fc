import Airspace.Telemetry.Wire
import Airspace.Collision.Alert

/-!
# Telemetry on the message bus

A bus message carries a key, a value and a time. Telemetry is published one
message per sample: the vehicle as key, the sample's JSON as value, the sample's
time as time. A received message is decoded as a report received at the
message's time; a report without a vehicle takes the key as its vehicle, and is
refused if that is empty too, or if its coordinates are not valid.
-/

namespace Airspace.Bus

open Airspace.Telemetry Airspace.Time Airspace.Geo Airspace.Json Airspace.Collision

/-- A message on the bus. -/
structure Message where
  key : String
  value : List UInt8
  time : Timestamp
  partition : Int := 0
  offset : Int := 0

/-- Why a message holds no usable sample. -/
inductive TelemetryError where
  /-- The value is not a readable report. -/
  | report (e : ReportError)
  /-- Neither the report nor the key names a vehicle. -/
  | missingVehicle
  /-- The coordinates are not valid. -/
  | invalidCoordinate

/-- The text of a telemetry error. -/
def TelemetryError.message : TelemetryError → String
  | .report e => "unmarshal telemetry: " ++ e.message
  | .missingVehicle => "telemetry: missing vehicle id"
  | .invalidCoordinate => "telemetry: coordinate out of range"

/-- The sample a message carries. -/
def decodeTelemetry (m : Message) : Except TelemetryError Sample :=
  match Sample.parse m.value m.time with
  | .error e => .error (.report e)
  | .ok s =>
    let s := if s.vehicle.isEmpty then { s with vehicle := m.key } else s
    if s.vehicle.isEmpty then .error .missingVehicle
    else if !validCoordinate s.position.latitude s.position.longitude then .error .invalidCoordinate
    else .ok s

/-- Why messages could not be made: the vehicle of the record that failed, and why. -/
structure PublishError where
  /-- What was being written: `sample` or `alert`. -/
  what : String
  vehicle : String
  error : EncodeError

/-- The text of a publishing error. -/
def PublishError.message (e : PublishError) : String :=
  "marshal " ++ e.what ++ " for " ++ e.vehicle ++ ": " ++ e.error.message

/-- JSON as message bytes, with `<`, `>` and `&` escaped. -/
def wireBytes (v : Value) : List UInt8 := (v.render { escapeHtml := true }).toUTF8.toList

/-- One message per sample, in order. -/
def publishTelemetry (samples : List Sample) : Except PublishError (List Message) :=
  samples.mapM fun s =>
    match s.encode with
    | .ok v => .ok ⟨s.vehicle, wireBytes v, s.timestamp, 0, 0⟩
    | .error e => .error ⟨"sample", s.vehicle, e⟩

/-- One message per alert, in order: the vehicle as key, the alert's time as time. -/
def publishAlerts (alerts : List Alert) : Except PublishError (List Message) :=
  alerts.mapM fun a =>
    match a.encode with
    | .ok v => .ok ⟨a.vehicle, wireBytes v, a.detectedAt, 0, 0⟩
    | .error e => .error ⟨"alert", a.vehicle, e⟩

end Airspace.Bus
