import Airspace.Telemetry.Wire
import Airspace.Geo.Units

/-!
# State vectors of a flight-tracking feed

The feed answers with a time and a list of state vectors, each a list of
loosely typed values by position: `0` the transponder address, `3` the time of
the last position fix, `5` longitude, `6` latitude, `7` barometric altitude
(metres), `10` track angle, `13` geometric altitude (metres).

A state vector becomes a sample when it has at least eleven entries, a
nonempty address and numeric coordinates that are valid. Its altitude is the
geometric one when present and numeric, else the barometric one (zero when
that is not numeric either); its time is the fix time truncated to whole
seconds when numeric, else the feed's time; its heading is the track angle or
zero. The vehicle id is the address without surrounding white space.
-/

namespace Airspace.Feed

open Airspace.Json Airspace.Telemetry Airspace.Time Airspace.Geo

/-- The feed's answer: its time in Unix seconds and the state vectors. -/
structure Response where
  time : Int := 0
  states : List (List Value) := []

/-- The name under which mismatches show the answer record. -/
def responseRecord : String := "Response"

/-- Reads one state vector, the `i`-th, under the member written `key`. -/
def readState (key : String) (i : Nat) (v : Value) : Reader Empty (List Value) :=
  match v with
  | .null => pure []
  | .array items => do
    checkItems responseRecord [.member key, .index i] 0 items
    pure items
  | v => do
    mismatch ⟨v.kind, responseRecord, [.member key, .index i], "[]interface \x7b\x7d"⟩
    pure []

/-- Reads the list of state vectors, the member written `key`. -/
def readStates (key : String) (v : Value) : Reader Empty (Option (List (List Value))) :=
  match v with
  | .null => pure (some [])
  | .array items => do
    let rows ← items.zipIdx.mapM fun (item, i) => readState key i item
    pure (some rows)
  | v => do
    mismatch ⟨v.kind, responseRecord, [.member key], "[][]interface \x7b\x7d"⟩
    pure none

/-- Applies one member of the feed's answer. -/
def Response.readMember (r : Response) (k : String) (v : Value) : Reader Empty Response := do
  if keyMatches k "time" then
    return match ← readInt64 ⟨responseRecord, [.member k], "int64"⟩ v with
      | some t => { r with time := t }
      | none => r
  else if keyMatches k "states" then
    return match ← readStates k v with
      | some s => { r with states := s }
      | none => r
  else return r

/-- Reads the feed's answer. -/
def Response.read (v : Value) : Reader Empty Response :=
  match v with
  | .null => pure {}
  | .object members => members.foldlM (fun r (k, v) => r.readMember k v) {}
  | v => do
    mismatch ⟨v.kind, "", [], "opensky.Response"⟩
    pure {}

/-- The number an entry holds, if it is a number. -/
def numberOf : Value → Option Float
  | .number lit => (Decimal.Literal.ofJson? lit).map Decimal.Literal.toFloat
  | _ => none

/-- The entry at a position; `null` beyond the end. -/
def entry (s : List Value) (i : Nat) : Value := s.getD i .null

/-- The sample of one state vector, if it makes one. -/
def stateSample (feedTime : Int) (s : List Value) : Option Sample := do
  guard (s.length ≥ 11)
  let address := match entry s 0 with
    | .string a => a
    | _ => ""
  let lat ← numberOf (entry s 6)
  let lon ← numberOf (entry s 5)
  guard (!address.isEmpty && validCoordinate lat lon)
  let geometric := if s.length > 13 then numberOf (entry s 13) else none
  let alt := geometric.getD ((numberOf (entry s 7)).getD 0)
  let ts := match numberOf (entry s 3) with
    | some fix => Binary64.toInt64Trunc fix
    | none => feedTime
  return ⟨Text.trimBlank address, Timestamp.ofUnix ts, ⟨lat, lon, metersToFeet alt⟩,
    (numberOf (entry s 10)).getD 0⟩

/-- The samples of the answer, in order. -/
def Response.samples (r : Response) : List Sample := r.states.filterMap (stateSample r.time)

/-- Why an answer could not be read. -/
abbrev ResponseError := DecodeError Empty

/-- The text of an answer error. -/
def ResponseError.message : ResponseError → String
  | .malformed e => e.message
  | .mismatch m => m.message
  | .refused e => nomatch e

end Airspace.Feed
