import Airspace.Obstacle.Definition
import Airspace.Json.Decode

/-!
# Obstacle definitions as JSON

A definition travels as a JSON object with the members `id`, `name`,
`speed_avg`, `sphere_radius` and `waypoints`, each waypoint an object with
`order`, `latitude`, `longitude` and `altitude_msl`. Members are read by the
rules of `Json.Decode`: keys without regard to case, the last of a repeated key
winning, `null` leaving a field as it was, and a value of the wrong kind kept
as the first mismatch while the reading goes on. An id must be a whole number
from 0 to 2⁶⁴ - 1 and an order a signed 64-bit whole number.

A file of definitions holds either an array of them or a single one. It is
read as an array first; if that fails it is read as one definition, and if
that fails too the array's failure is the answer.
-/

namespace Airspace.Obstacle

open Airspace.Json Airspace.Geo

/-- The definition with every field zero. -/
def Definition.zero : Definition := ⟨0, [], 0, 0, []⟩

/-- The waypoint with every field zero. -/
def zeroWaypoint : Waypoint Float := ⟨0, Position.origin⟩

/-- Applies one member of a waypoint object found at `path`. -/
def readWaypointMember (path : List Step) (w : Waypoint Float) (key : String) (v : Value) :
    Reader Empty (Waypoint Float) := do
  let place := fun (target : String) => (⟨"", path ++ [.member key], target⟩ : Place)
  if keyMatches key "order" then
    return match ← readInt64 (place "int") v with
      | some n => { w with order := n }
      | none => w
  else if keyMatches key "latitude" then
    return match ← readFloat (place "float64") v with
      | some x => { w with position.latitude := x }
      | none => w
  else if keyMatches key "longitude" then
    return match ← readFloat (place "float64") v with
      | some x => { w with position.longitude := x }
      | none => w
  else if keyMatches key "altitude_msl" then
    return match ← readFloat (place "float64") v with
      | some x => { w with position.altitudeMsl := x }
      | none => w
  else return w

/-- Reads a waypoint at `path` inside a definition. -/
def readWaypoint (path : List Step) (v : Value) : Reader Empty (Waypoint Float) :=
  match v with
  | .null => pure zeroWaypoint
  | .object members => members.foldlM (fun w (k, v) => readWaypointMember path w k v) zeroWaypoint
  | v => do
    mismatch ⟨v.kind, "", path, "model.Waypoint"⟩
    pure zeroWaypoint

/-- Reads the waypoints array of a definition at `path`; `null` keeps them. -/
def readWaypoints (path : List Step) (held : List (Waypoint Float)) (v : Value) :
    Reader Empty (List (Waypoint Float)) :=
  match v with
  | .null => pure held
  | .array items => items.zipIdx.mapM fun (item, j) => readWaypoint (path ++ [.index j]) item
  | v => do
    mismatch ⟨v.kind, "", path, "[]model.Waypoint"⟩
    pure held

/-- Applies one member of a definition object found at `path`. -/
def Definition.readMember (path : List Step) (d : Definition) (key : String) (v : Value) :
    Reader Empty Definition := do
  let place := fun (target : String) => (⟨"", path ++ [.member key], target⟩ : Place)
  if keyMatches key "id" then
    return match ← readUInt64 (place "uint") v with
      | some n => { d with id := n }
      | none => d
  else if keyMatches key "name" then
    return match ← readText (place "string") v with
      | some s => { d with name := s.toUTF8.toList }
      | none => d
  else if keyMatches key "speed_avg" then
    return match ← readFloat (place "float64") v with
      | some x => { d with speed := x }
      | none => d
  else if keyMatches key "sphere_radius" then
    return match ← readFloat (place "float64") v with
      | some x => { d with radius := x }
      | none => d
  else if keyMatches key "waypoints" then
    return { d with waypoints := ← readWaypoints (path ++ [.member key]) d.waypoints v }
  else return d

/-- Reads a definition at `path`, naming `target` when the value is no object. -/
def Definition.read (path : List Step) (v : Value) : Reader Empty Definition :=
  match v with
  | .null => pure Definition.zero
  | .object members => members.foldlM (fun d (k, v) => d.readMember path k v) Definition.zero
  | v => do
    mismatch ⟨v.kind, "", path, "model.ObstacleConfig"⟩
    pure Definition.zero

/-- Reads an array of definitions; `null` is none. -/
def readDefinitions (v : Value) : Reader Empty (List Definition) :=
  match v with
  | .null => pure []
  | .array items => items.zipIdx.mapM fun (item, i) => Definition.read [.index i] item
  | v => do
    mismatch ⟨v.kind, "", [], "[]model.ObstacleConfig"⟩
    pure []

/-- Why a file of definitions could not be read. -/
abbrev DefinitionsError := DecodeError Empty

/-- The text of such a failure. -/
def DefinitionsError.message : DefinitionsError → String
  | .malformed e => e.message
  | .mismatch m => m.message
  | .refused e => nomatch e

/-- Reads a file of definitions: an array, or else a single definition. -/
def parseDefinitions (bytes : List UInt8) : Except DefinitionsError (List Definition) :=
  match decode bytes readDefinitions with
  | .ok ds => .ok ds
  | .error e =>
    match decode bytes (Definition.read []) with
    | .ok d => .ok [d]
    | .error _ => .error e

end Airspace.Obstacle
