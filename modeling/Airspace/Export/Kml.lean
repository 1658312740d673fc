import Airspace.Export.Track
import Airspace.Xml.Node
import Airspace.Decimal.Notation
import Airspace.Time.Rfc3339

/-!
# KML documents of obstacle tracks

Two documents are written. The recorded paths (`Moving Obstacles`) draw each
track as a time-stamped `gx:Track`: all the instants in UTC, then all the
coordinates. The live view (`Live Obstacles`) draws each track as an extruded
line string with a translucent fill.

Numbers are written with the fewest digits that read back, always positional;
a line string's coordinate leaves out an altitude of zero. Colours are written
alpha, blue, green, red, two hexadecimal digits each.
-/

namespace Airspace.Export

open Airspace.Xml Airspace.Time

/-- The points of one obstacle's track, with its id and name. -/
structure ObstacleTrack where
  id : Nat
  name : String
  points : List TrackPoint

/-- The name shown for a track: its name, or `Obstacle Path <id>` without one. -/
def ObstacleTrack.title (t : ObstacleTrack) : String :=
  if t.name.isEmpty then "Obstacle Path " ++ toString t.id else t.name

/-- Numbers in KML: shortest digits, never an exponent. -/
def kmlNumber : Decimal.Notation := ⟨-100000, 100000, 1, "NaN", "+Inf", "-Inf"⟩

/-- A colour with an opacity, each component `0 … 255`. -/
structure Colour where
  red : Nat
  green : Nat
  blue : Nat
  alpha : Nat

/-- Two lower-case hexadecimal digits. -/
def hex2 (n : Nat) : String :=
  let d := fun k => String.singleton ("0123456789abcdef".toList.getD k '0')
  d (n / 16 % 16) ++ d (n % 16)

/-- The colour as KML writes it: alpha, blue, green, red. -/
def Colour.text (c : Colour) : String := hex2 c.alpha ++ hex2 c.blue ++ hex2 c.green ++ hex2 c.red

/-- Opaque red. -/
def red : Colour := ⟨255, 0, 0, 255⟩

/-- Translucent red, for filled areas. -/
def translucentRed : Colour := ⟨255, 0, 0, 100⟩

/-- The KML namespace, and the one of Google's extensions. -/
def kmlNamespace : String := "http://www.opengis.net/kml/2.2"
def extensionNamespace : String := "http://www.google.com/kml/ext/2.2"

/-- A `gx:Track` coordinate: longitude, latitude, altitude in metres, by spaces. -/
def trackCoord (p : TrackPoint) : String :=
  let (lon, lat, alt) := p.coord
  kmlNumber.render lon ++ " " ++ kmlNumber.render lat ++ " " ++ kmlNumber.render alt

/-- A line string coordinate: longitude, latitude and, unless zero, altitude, by commas. -/
def lineCoord (p : TrackPoint) : String :=
  let (lon, lat, alt) := p.coord
  kmlNumber.render lon ++ "," ++ kmlNumber.render lat ++
    (if alt == 0 then "" else "," ++ kmlNumber.render alt)

/-- An instant in UTC to the second. -/
def whenText (t : Timestamp) : String := t.toUtc.dateTimeText ++ "Z"

/-- The placemark of a recorded path. -/
def pathPlacemark (t : ObstacleTrack) : Node :=
  .element "Placemark" [] [
    .text "name" [] t.title,
    .element "Style" [] [
      .element "LineStyle" [] [.text "color" [] red.text, .text "width" [] (kmlNumber.render 2)]],
    .element "gx:Track" [] (
      [.text "altitudeMode" [] "absolute", .text "extrude" [] "1"] ++
      t.points.map (fun p => .text "when" [] (whenText p.time)) ++
      t.points.map (fun p => .text "gx:coord" [] (trackCoord p)))]

/-- The placemark of a live track. -/
def livePlacemark (t : ObstacleTrack) : Node :=
  .element "Placemark" [] [
    .text "name" [] t.title,
    .element "Style" [] [
      .element "LineStyle" [] [.text "color" [] red.text],
      .element "PolyStyle" [] [.text "color" [] translucentRed.text]],
    .element "LineString" [] [
      .text "altitudeMode" [] "absolute", .text "extrude" [] "1",
      .text "coordinates" [] (" ".intercalate (t.points.map lineCoord))]]

/-- The document of recorded paths. -/
def pathsDocument (tracks : List ObstacleTrack) : String :=
  document (.element "kml" [("xmlns", kmlNamespace), ("xmlns:gx", extensionNamespace)] [
    .element "Document" [] (.text "name" [] "Moving Obstacles" :: tracks.map pathPlacemark)])

/-- The document of live tracks. -/
def liveDocument (tracks : List ObstacleTrack) : String :=
  document (.element "kml" [("xmlns", kmlNamespace)] [
    .element "Document" [] (.text "name" [] "Live Obstacles" :: tracks.map livePlacemark)])

end Airspace.Export
