import Airspace.Scalar.Basic

/-!
# Units of the airspace

Positions are in degrees, altitudes and ranges in feet, speeds in knots. The
conversions are single multiplications or divisions by the usual factors.
-/

namespace Airspace.Geo

variable {α : Type} [Scalar α]

/-- Feet in a metre. -/
def feetPerMeter : α := 3.28084

/-- Metres in a foot. -/
def metersPerFoot : α := 0.3048

/-- Feet per second in a knot. -/
def feetPerSecondPerKnot : α := 1.68781

/-- Feet in a nautical mile. -/
def feetPerNauticalMile : α := 6076.12

/-- A speed in knots as feet per second. -/
def knotsToFeetPerSecond (knots : α) : α := knots * feetPerSecondPerKnot

/-- A length in feet as metres. -/
def feetToMeters (feet : α) : α := feet * metersPerFoot

/-- A length in metres as feet. -/
def metersToFeet (meters : α) : α := meters * feetPerMeter

/-- A length in feet as nautical miles. -/
def feetToNauticalMiles (feet : α) : α := feet / feetPerNauticalMile

end Airspace.Geo
