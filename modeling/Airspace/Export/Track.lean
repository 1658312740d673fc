import Airspace.Geo.Units
import Airspace.Geo.Position
import Airspace.Scalar.Binary64
import Airspace.Time.Instant

/-!
# Sampled tracks of a moving position

A track samples a position every `step` over time periods: from each period's
start, while the sample time is strictly before its end, so a period of length
`d > 0` gives `⌈d / step⌉` points and an empty or inverted period none. A live
track samples backwards from `now` while the time is not before
`now - lookback`: `⌊lookback / step⌋ + 1` points, none when `lookback < 0`.
The negation of the lookback wraps as 64-bit arithmetic does, so the least
duration stands for `2^63` nanoseconds. A step that is not positive means
100 ms.

The position is any function of time that may fail; the first failure ends
the track.
-/

namespace Airspace.Export

open Airspace.Geo Airspace.Time

/-- A sampled position and its time. -/
structure TrackPoint where
  time : Timestamp
  position : Position Float

/-- Longitude and latitude in degrees and the altitude in metres. -/
def TrackPoint.coord (p : TrackPoint) : Float × Float × Float :=
  (p.position.longitude, p.position.latitude, feetToMeters p.position.altitudeMsl)

/-- A span of time from `start` up to, not including, `stop`. -/
structure Period where
  start : Timestamp
  stop : Timestamp

/-- The sampling step used when none is set: 100 ms. -/
def defaultStep : Duration := 100000000

/-- The step actually used. -/
def effectiveStep (step : Duration) : Duration := if step ≤ 0 then defaultStep else step

/-- The number of multiples `k·step`, `k ≥ 0`, strictly below `d`. -/
def stepsBelow (d step : Int) : Nat :=
  if d ≤ 0 || step ≤ 0 then 0 else ((d + step - 1) / step).toNat

/-- The points of one period. -/
def Period.points {ε : Type} (positionAt : Timestamp → Except ε (Position Float)) (p : Period)
    (step : Duration) : Except ε (List TrackPoint) :=
  let step := effectiveStep step
  (List.range (stepsBelow (p.stop.epochNanos - p.start.epochNanos) step)).mapM fun (k : Nat) => do
    let t := p.start.add (step * k)
    return ⟨t, ← positionAt t⟩

/-- The points of every period, in order. -/
def track {ε : Type} (positionAt : Timestamp → Except ε (Position Float)) (periods : List Period)
    (step : Duration) : Except ε (List TrackPoint) := do
  return (← periods.mapM fun p => p.points positionAt step).flatten

/-- The points from `now` backwards over `lookback`, newest first. -/
def liveTrack {ε : Type} (positionAt : Timestamp → Except ε (Position Float)) (now : Timestamp)
    (lookback step : Duration) : Except ε (List TrackPoint) :=
  let step := effectiveStep step
  let span := -Duration.wrap (-lookback)
  let count := if span < 0 then 0 else (span / step).toNat + 1
  (List.range count).mapM fun (k : Nat) => do
    let t := now.add (-(step * k))
    return ⟨t, ← positionAt t⟩

end Airspace.Export
