import Airspace.Telemetry.Sample
import Airspace.Json.Decode
import Airspace.Time.Rfc3339
import Airspace.Text.Blank
import Airspace.Scalar.Binary64

/-!
# Samples as JSON

A sample travels as a JSON object with the members `vehicle`, `timestamp`
(RFC 3339), `latitude`, `longitude`, `altitude_msl` and `heading`.

Reading a report first drops leading white space, byte-order marks and
no-break spaces, then reads the object by the rules of `Json.Decode`; the whole
document `null` is an empty report. A timestamp must be a string that the
layout `2006-01-02T15:04:05Z07:00` reads, and a malformed one refuses the
report. A missing or zero timestamp
(the instant 0001-01-01T00:00:00Z in any zone) becomes the time the report was
received; a vehicle id loses its NUL characters and surrounding white space.

Writing gives the members in that order, `heading` only when it is nonzero,
numbers in shortest form; a NaN or infinite number cannot be written, nor a
time whose year lies outside 0 … 9999 or whose zone is a day or more from UTC.
-/

namespace Airspace.Telemetry

open Airspace.Json Airspace.Time Airspace.Geo

/-- The sample with every field zero. -/
def Sample.zero : Sample := ⟨"", Timestamp.zero, Position.origin, 0⟩

/-- The name under which mismatches show the sample record. -/
def sampleRecord : String := "TelemetrySample"

/-- The place of the sample member written with `key`. -/
def fieldPlace (key target : String) : Place := ⟨sampleRecord, [.member key], target⟩

/-- Reads a timestamp member: a string must be a time by the layout
`2006-01-02T15:04:05Z07:00`. -/
def readTime (p : Place) (v : Value) : Reader ParseError (Option Timestamp) :=
  match v with
  | .null => pure none
  | .string s =>
    match Layout.rfc3339.read s.toUTF8.toList with
    | .ok t => pure (some t)
    | .error e => refuse e
  | v => do p.mismatch v.kind; pure none

/-- Applies one member of a sample object. -/
def Sample.readMember (s : Sample) (key : String) (v : Value) : Reader ParseError Sample := do
  if keyMatches key "vehicle" then
    return match ← readText (fieldPlace key "string") v with
      | some x => { s with vehicle := x }
      | none => s
  else if keyMatches key "timestamp" then
    return match ← readTime (fieldPlace key "time.Time") v with
      | some t => { s with timestamp := t }
      | none => s
  else if keyMatches key "latitude" then
    return match ← readFloat (fieldPlace key "float64") v with
      | some x => { s with position.latitude := x }
      | none => s
  else if keyMatches key "longitude" then
    return match ← readFloat (fieldPlace key "float64") v with
      | some x => { s with position.longitude := x }
      | none => s
  else if keyMatches key "altitude_msl" then
    return match ← readFloat (fieldPlace key "float64") v with
      | some x => { s with position.altitudeMsl := x }
      | none => s
  else if keyMatches key "heading" then
    return match ← readFloat (fieldPlace key "float64") v with
      | some x => { s with heading := x }
      | none => s
  else return s

/-- Reads a sample from a value, over a starting sample. -/
def Sample.read (start : Sample) (v : Value) : Reader ParseError Sample :=
  match v with
  | .null => pure start
  | .object members => members.foldlM (fun s (k, v) => s.readMember k v) start
  | v => do
    mismatch ⟨v.kind, "", [], "model.TelemetrySample"⟩
    pure start

/-- Why a report could not be read. -/
abbrev ReportError := DecodeError ParseError

/-- The text of a report error. -/
def ReportError.message : ReportError → String
  | .malformed e => e.message
  | .mismatch m => m.message
  | .refused e => e.text

/-- Whether a character is dropped before a report: white space, the byte-order
mark, the no-break space. -/
def isLeadingJunk (c : Char) : Bool := Text.isBlank c || c.toNat == 0xFEFF || c.toNat == 0xA0

/-- The bytes without the leading characters that `junk` picks out. -/
def dropLeadingChars (junk : Char → Bool) : List UInt8 → List UInt8
  | [] => []
  | b :: rest =>
    let (c, k) := Text.decodeLead b rest
    if junk c then dropLeadingChars junk (rest.drop k) else b :: rest
termination_by bs => bs.length
decreasing_by simp only [List.length_drop, List.length_cons]; omega

/-- The bytes without leading white space, byte-order marks and no-break spaces. -/
def dropLeadingJunk (bs : List UInt8) : List UInt8 := dropLeadingChars isLeadingJunk bs

/-- A vehicle id without NUL characters and surrounding white space. -/
def normalizeVehicle (s : String) : String :=
  Text.trimBlank (String.ofList (s.toList.filter (· ≠ '\x00')))

/-- Reads a report received at `received`. -/
def Sample.parse (raw : List UInt8) (received : Timestamp) : Except ReportError Sample := do
  let s ← decode (dropLeadingJunk raw) (Sample.read Sample.zero)
  let s := if s.timestamp.isZero then { s with timestamp := received } else s
  return if s.vehicle.isEmpty then s else { s with vehicle := normalizeVehicle s.vehicle }

/-- Why a value cannot be written as JSON. -/
inductive EncodeError where
  /-- A NaN or infinite number. -/
  | unsupportedNumber (x : Float)
  /-- A time outside what RFC 3339 can write. -/
  | unwritableTime (reason : String)

/-- The text of an encoding error. -/
def EncodeError.message : EncodeError → String
  | .unsupportedNumber x => "json: unsupported value: " ++ numberNotation.render x
  | .unwritableTime reason =>
    "json: error calling MarshalJSON for type *time.Time: " ++ reason

/-- A number as JSON. -/
def encodeNumber (x : Float) : Except EncodeError Value :=
  if x.isNaN || x.isInf then .error (.unsupportedNumber x) else .ok (Value.ofFloat x)

/-- A time as a JSON string in RFC 3339 with the shortest fraction. -/
def encodeTime (t : Timestamp) : Except EncodeError Value :=
  let year := t.civil.year
  if year < 0 ∨ year > 9999 then .error (.unwritableTime "year outside of range [0,9999]")
  else if t.offset.natAbs ≥ 86400 then .error (.unwritableTime "timezone hour outside of range [0,23]")
  else .ok (.string t.format)

/-- A position's three members. -/
def encodePosition (p : Position Float) : Except EncodeError (List (String × Value)) := do
  return [("latitude", ← encodeNumber p.latitude), ("longitude", ← encodeNumber p.longitude),
    ("altitude_msl", ← encodeNumber p.altitudeMsl)]

/-- A sample as a JSON object. -/
def Sample.encode (s : Sample) : Except EncodeError Value := do
  let head := [("vehicle", Value.string s.vehicle), ("timestamp", ← encodeTime s.timestamp)]
  let pos ← encodePosition s.position
  let heading ← if s.heading == 0 then pure [] else do pure [("heading", ← encodeNumber s.heading)]
  return .object (head ++ pos ++ heading)

end Airspace.Telemetry
