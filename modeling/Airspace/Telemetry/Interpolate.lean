import Airspace.Telemetry.Sample
import Airspace.Binary64.Basic

/-!
# Densifying a track

Collision checks look at a vehicle between its reports by inserting
linearly interpolated samples every `step` between two consecutive reports,
provided the gap between them is longer than a step and, when `maxGap` is
positive, no longer than `maxGap` (the path across a longer gap is unknown).

The points inserted between `a` and `b`, with gap `g`, are those at
`a + t` for `t = step, 2·step, …` while `t < g`; each is `lerp a b (t / g)`
stamped with its exact time, which keeps `a`'s offset. The offset `t` is a
64-bit count of nanoseconds: when adding a step carries it past the greatest
duration it wraps around to a negative one, and the points go on from there
until it reaches `g` again. Offsets repeat after `2^64` steps, so that many
steps decide whether the run ends.
-/

namespace Airspace.Telemetry

open Airspace.Time Airspace.Geo

/-- How a track is densified. -/
structure Densify where
  /-- Spacing of the inserted samples; a step that is not positive means 100 ms. -/
  step : Duration
  /-- The longest gap interpolated across; not positive means no limit. -/
  maxGap : Duration

/-- The step used when none is set: 100 ms. -/
def defaultStep : Duration := 100000000

/-- The densification of the scoring path: 100 ms steps across gaps up to 10 s. -/
def Densify.default : Densify := ⟨defaultStep, 10000000000⟩

/-- The step actually used. -/
def Densify.effectiveStep (c : Densify) : Duration := if c.step ≤ 0 then defaultStep else c.step

/-- The sample a fraction `ratio` of the way from `a` to `b`: its time is `a`'s
plus the truncated product of `ratio` and the gap, vehicle and heading are `a`'s,
and each coordinate is `a + ratio·(b - a)`. -/
def lerp (a b : Sample) (ratio : Float) : Sample :=
  let gap := b.timestamp.sub a.timestamp
  let shift := Binary64.toInt64Trunc (ratio * Float.ofInt gap)
  { vehicle := a.vehicle
    timestamp := a.timestamp.add shift
    position :=
      { latitude := a.position.latitude + ratio * (b.position.latitude - a.position.latitude)
        longitude := a.position.longitude + ratio * (b.position.longitude - a.position.longitude)
        altitudeMsl :=
          a.position.altitudeMsl + ratio * (b.position.altitudeMsl - a.position.altitudeMsl) }
    heading := a.heading }

/-- The offsets of the samples inserted across a gap, after those in `acc`
(latest first): from `t`, each the last plus `step` with 64-bit wraparound,
while below the gap, for at most `fuel` steps. -/
def offsetsFrom (gap step : Duration) : Nat → Duration → List Duration → List Duration
  | 0, _, acc => acc.reverse
  | fuel + 1, t, acc =>
    if t < gap then offsetsFrom gap step fuel (Duration.wrap (t + step)) (t :: acc) else acc.reverse

/-- How many steps decide a run of offsets: they repeat after `2^64`. -/
def offsetFuel : Nat := Nat.pow 2 64

/-- The offsets from a report of the samples inserted across a gap. -/
def insertedOffsets (gap step : Duration) : List Duration := offsetsFrom gap step offsetFuel step []

/-- Whether the gap between two reports is interpolated across. -/
def Densify.bridges (c : Densify) (gap : Duration) : Bool :=
  !(gap ≤ c.effectiveStep || (c.maxGap > 0 && gap > c.maxGap))

/-- The samples inserted strictly between two consecutive reports. -/
def Densify.between (c : Densify) (a b : Sample) : List Sample :=
  let gap := b.timestamp.sub a.timestamp
  let step := c.effectiveStep
  if c.bridges gap then
    (insertedOffsets gap step).map fun t =>
      { lerp a b (Float.ofInt t / Float.ofInt gap) with timestamp := a.timestamp.add t }
  else []

/-- The track with interpolated samples inserted between consecutive reports;
every report appears, in its place. -/
def Densify.apply (c : Densify) : List Sample → List Sample
  | [] => []
  | [s] => [s]
  | a :: b :: rest => a :: (c.between a b ++ c.apply (b :: rest))

/-- Stably orders samples by instant, oldest first. -/
def sortByTime (samples : List Sample) : List Sample :=
  samples.mergeSort fun a b => !(b.timestamp.before a.timestamp)

/-- A flight window: the instants of its first and last samples. -/
structure Window where
  first : Timestamp
  last : Timestamp

/-- Splits a track where two consecutive samples are more than `maxGap` apart.
Given the window open so far, from `start`, and its last sample. -/
def windowsFrom (maxGap : Duration) (start prev : Timestamp) : List Sample → List Window
  | [] => [⟨start, prev⟩]
  | s :: rest =>
    if s.timestamp.sub prev > maxGap then ⟨start, prev⟩ :: windowsFrom maxGap s.timestamp s.timestamp rest
    else windowsFrom maxGap start s.timestamp rest

/-- The flight windows of a track, or `none` for no samples. -/
def windows (samples : List Sample) (maxGap : Duration) : Option (List Window) :=
  match samples with
  | [] => none
  | s :: rest => some (windowsFrom maxGap s.timestamp s.timestamp rest)

end Airspace.Telemetry
