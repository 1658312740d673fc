import Airspace.Geo.Distance

/-!
# Circuits and travel times

A circuit is the closed route an obstacle flies: its waypoints in ascending
order (ties keep their given order), with a waypoint dropped when it coincides
with the waypoint given just before it, and with trailing waypoints dropped
while they coincide with the first. Two waypoints coincide when their distance
is exactly zero; a NaN distance does not count as coincidence.

Flying at a constant speed, the time to fly a leg is its distance over the
speed in feet per second. The travel times of a circuit are those of its legs
in order, the closing leg back to the first waypoint included, after a leading
zero; the arrival times are their running sums.
-/

namespace Airspace.Obstacle

open Airspace.Geo Airspace.Scalar

variable {α : Type} [Scalar α]

/-- The distance between the positions of two waypoints. -/
def waypointDistance (a b : Waypoint α) : α := a.position.distance b.position

/-- Waypoints in ascending order, equal orders keeping their given order. -/
def sortByOrder (ws : List (Waypoint α)) : List (Waypoint α) :=
  ws.mergeSort fun a b => decide (a.order ≤ b.order)

/-- Keeps each waypoint that does not coincide with the one given just before it. -/
def dropRepeats : List (Waypoint α) → List (Waypoint α)
  | [] => []
  | w :: rest => w :: keepMoved w rest
where
  /-- The waypoints of `ws` that do not coincide with their predecessor, the first's being `prev`. -/
  keepMoved (prev : Waypoint α) : List (Waypoint α) → List (Waypoint α)
    | [] => []
    | w :: rest => if waypointDistance w prev != 0 then w :: keepMoved w rest else keepMoved w rest

/-- Drops trailing waypoints while they coincide with the first, keeping at least one. -/
def dropClosing (ws : List (Waypoint α)) : List (Waypoint α) :=
  if _long : ws.length > 1 then
    match ws.head?, ws.getLast? with
    | some first, some last =>
      if waypointDistance last first == 0 then dropClosing ws.dropLast else ws
    | _, _ => ws
  else ws
termination_by ws.length
decreasing_by simp only [List.length_dropLast]; omega

/-- The circuit flown through a list of waypoints already in order. -/
def dedupe (ws : List (Waypoint α)) : List (Waypoint α) := dropClosing (dropRepeats ws)

/-- Why a travel time cannot be computed. -/
inductive TravelError where
  /-- The circuit has no waypoints. -/
  | emptyCircuit
  /-- The circuit has a single waypoint. -/
  | tooFewWaypoints
  /-- A leg names a waypoint the circuit does not have. -/
  | indexOutOfRange
  /-- The speed is zero or negative. -/
  | nonPositiveSpeed
  deriving Repr, DecidableEq

/-- The text of a travel error. -/
def TravelError.message : TravelError → String
  | .emptyCircuit => "obstacle: circuit has no waypoints"
  | .tooFewWaypoints => "obstacle: circuit needs at least two waypoints"
  | .indexOutOfRange => "obstacle: waypoint index out of range"
  | .nonPositiveSpeed => "obstacle: average speed must be positive"

/-- The time in seconds to fly from waypoint `src` to waypoint `dst` at a speed in knots.
The checks come in this order: an empty circuit, a single waypoint, an index
outside the circuit, a speed that is not positive (NaN passes). -/
def segmentTravelTime (circuit : Array (Waypoint α)) (src dst : Int) (speed : α) :
    Except TravelError α :=
  let n := circuit.size
  if n = 0 then .error .emptyCircuit
  else if n < 2 then .error .tooFewWaypoints
  else if src < 0 ∨ src ≥ n ∨ dst < 0 ∨ dst ≥ n then .error .indexOutOfRange
  else if speed ≤ 0 then .error .nonPositiveSpeed
  else
    let a := circuit.getD src.toNat ⟨0, Position.origin⟩
    let b := circuit.getD dst.toNat ⟨0, Position.origin⟩
    .ok (waypointDistance a b / knotsToFeetPerSecond speed)

/-- A leading zero, then the time of each leg of the circuit, the closing leg last. -/
def travelTimes (circuit : Array (Waypoint α)) (speed : α) : Except TravelError (Array α) := do
  let n := circuit.size
  if n = 0 then throw .emptyCircuit
  let legs ← (List.range n).mapM fun (i : Nat) =>
    segmentTravelTime circuit (Int.ofNat (i % n)) (Int.ofNat ((i + 1) % n)) speed
  return (#[0] ++ legs.toArray)

/-- Running sums of the travel times. -/
def arrivalTimes (travel : Array α) : Array α :=
  (travel.foldl (fun (acc : α × Array α) t => let s := acc.1 + t; (s, acc.2.push s)) (0, #[])).2

end Airspace.Obstacle
