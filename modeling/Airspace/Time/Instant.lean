/-!
# Instants, durations and civil dates

A `Timestamp` is an instant — whole seconds since 1970-01-01T00:00:00Z and the
nanoseconds within that second — together with the offset from UTC of the zone
in which it is shown. Two timestamps are the same instant when seconds and
nanoseconds agree, whatever their offsets; ordering and differences look at the
instant only.

A `Duration` is a whole number of nanoseconds in the signed 64-bit range.
The difference of two instants saturates at the ends of that range.

Civil dates use the proleptic Gregorian calendar, by the day-count formulas of
the 400-year cycle, valid for every integer day. The wall-clock seconds shown
are taken modulo 2⁶⁴ from an epoch about 292 billion years before year 1, so a
time before that epoch is shown as one far in the future.
-/

namespace Airspace.Time

/-- Nanoseconds in a second. -/
def nanosPerSecond : Nat := 1000000000

/-- A signed number of nanoseconds. -/
abbrev Duration := Int

/-- The least and greatest durations. -/
def Duration.min : Duration := -Int.pow 2 63
def Duration.max : Duration := Int.pow 2 63 - 1

/-- Clamps an exact number of nanoseconds into the duration range. -/
def Duration.saturate (d : Int) : Duration :=
  if d < Duration.min then Duration.min else if d > Duration.max then Duration.max else d

/-- Reduces an integer into the duration range modulo `2^64`, as 64-bit arithmetic wraps. -/
def Duration.wrap (d : Int) : Duration :=
  let m := d % Int.pow 2 64
  if m ≥ Int.pow 2 63 then m - Int.pow 2 64 else m

/-- An instant with the UTC offset (in seconds) of the zone it is shown in. -/
structure Timestamp where
  /-- Whole seconds since 1970-01-01T00:00:00Z. -/
  unix : Int
  /-- Nanoseconds within the second. -/
  nanos : Nat
  /-- Seconds east of UTC. -/
  offset : Int := 0
  nanos_lt : nanos < nanosPerSecond := by decide

/-- The instant as nanoseconds since 1970-01-01T00:00:00Z. -/
def Timestamp.epochNanos (t : Timestamp) : Int := t.unix * nanosPerSecond + t.nanos

/-- The timestamp at an exact number of nanoseconds since 1970, shown at `offset`. -/
def Timestamp.ofEpochNanos (n : Int) (offset : Int := 0) : Timestamp :=
  { unix := n / (nanosPerSecond : Int), nanos := (n % (nanosPerSecond : Int)).toNat,
    offset := offset,
    nanos_lt := by
      have h1 := Int.emod_nonneg n (show (nanosPerSecond : Int) ≠ 0 by decide)
      have h2 := Int.emod_lt_of_pos n (show (0 : Int) < nanosPerSecond by decide)
      omega }

/-- The instant 0001-01-01T00:00:00Z, which stands for "no time". -/
def Timestamp.zero : Timestamp := { unix := -62135596800, nanos := 0 }

/-- Whether the instant is 0001-01-01T00:00:00Z, in any zone. -/
def Timestamp.isZero (t : Timestamp) : Bool := t.unix == -62135596800 && t.nanos == 0

/-- Same instant. -/
def Timestamp.sameInstant (a b : Timestamp) : Bool := a.unix == b.unix && a.nanos == b.nanos

/-- Strictly earlier instant. -/
def Timestamp.before (a b : Timestamp) : Bool := a.epochNanos < b.epochNanos

/-- Strictly later instant. -/
def Timestamp.after (a b : Timestamp) : Bool := a.epochNanos > b.epochNanos

/-- The timestamp a duration later, in the same zone. -/
def Timestamp.add (t : Timestamp) (d : Duration) : Timestamp :=
  Timestamp.ofEpochNanos (t.epochNanos + d) t.offset

/-- The duration from `b` to `a`, saturated to the duration range. -/
def Timestamp.sub (a b : Timestamp) : Duration :=
  Duration.saturate (a.epochNanos - b.epochNanos)

/-- The same instant shown in UTC. -/
def Timestamp.toUtc (t : Timestamp) : Timestamp := { t with offset := 0 }

/-- The instant at whole Unix seconds plus nanoseconds, in UTC. -/
def Timestamp.ofUnix (sec : Int) (nanos : Int := 0) : Timestamp :=
  Timestamp.ofEpochNanos (sec * nanosPerSecond + nanos)

/-- A civil date and time of day. -/
structure Civil where
  year : Int
  month : Nat
  day : Nat
  hour : Nat
  minute : Nat
  second : Nat
  deriving Repr, DecidableEq

/-- Days from 1970-01-01 to the given proleptic Gregorian date. -/
def daysFromCivil (y : Int) (m d : Nat) : Int :=
  let y := if m ≤ 2 then y - 1 else y
  let era := y / 400
  let yoe := y - era * 400
  let mp : Int := if m > 2 then (m : Int) - 3 else (m : Int) + 9
  let doy := (153 * mp + 2) / 5 + (d : Int) - 1
  let doe := yoe * 365 + yoe / 4 - yoe / 100 + doy
  era * 146097 + doe - 719468

/-- The proleptic Gregorian date of a day counted from 1970-01-01. -/
def civilFromDays (z : Int) : Int × Nat × Nat :=
  let z := z + 719468
  let era := z / 146097
  let doe := z - era * 146097
  let yoe := (doe - doe / 1460 + doe / 36524 - doe / 146096) / 365
  let doy := doe - (365 * yoe + yoe / 4 - yoe / 100)
  let mp := (5 * doy + 2) / 153
  let d := doy - (153 * mp + 2) / 5 + 1
  let m := if mp < 10 then mp + 3 else mp - 9
  let y := yoe + era * 400
  (if m ≤ 2 then y + 1 else y, m.toNat, d.toNat)

/-- Whether a year is a leap year of the Gregorian calendar. -/
def isLeapYear (y : Int) : Bool := y % 4 == 0 && (y % 100 != 0 || y % 400 == 0)

/-- The number of days in a month of a year. -/
def daysInMonth (y : Int) (m : Nat) : Nat :=
  match m with
  | 2 => if isLeapYear y then 29 else 28
  | 4 | 6 | 9 | 11 => 30
  | _ => 31

/-- Seconds from the calendar's own epoch, March 1 of the year -292277022400,
to 1970-01-01. -/
def epochToUnix : Int := -(daysFromCivil (-292277022400) 3 1 * 86400)

/-- Wall-clock seconds as the calendar reckons them: counted from its epoch in
an unsigned 64-bit word, so that a time before the epoch wraps to one far in
the future. -/
def wrapWall (wall : Int) : Int := (wall + epochToUnix) % Int.pow 2 64 - epochToUnix

/-- The civil date and time of day at which the timestamp is shown. -/
def Timestamp.civil (t : Timestamp) : Civil :=
  let wall := wrapWall (t.unix + t.offset)
  let (year, month, day) := civilFromDays (wall / 86400)
  let secs := (wall % 86400).toNat
  ⟨year, month, day, secs / 3600, secs / 60 % 60, secs % 60⟩

end Airspace.Time
