import Airspace.Store.Value

/-!
# Dates and times

The functions `date`, `time`, `datetime`, `julianday`, `unixepoch` and
`strftime` read a moment from their first argument and change it by the
arguments after it, the modifiers, in turn.

A moment is held the way the engine holds it: as a Julian day counted in
milliseconds, as a calendar date, and as a time of day, each of the three
known or not. A description that is needed is computed from the others, so a
date that was only read is never normalized until the day number is asked
for: `2024-02-30` is the first of March. The calendar is the proleptic
Gregorian one, and local time is universal time.

The first argument is

* a date `YYYY-MM-DD` (maybe after a minus sign), then blanks or `T`, then a
  time of day or nothing;
* a time of day `HH:MM`, `HH:MM:SS` or `HH:MM:SS.SSS`, on 2000-01-01, with a
  zone `Z` or `±HH:MM` after it or not;
* `now`, the engine's clock;
* a number, a Julian day (with the modifier `unixepoch`, seconds since 1970;
  with `auto`, whichever its size suggests).

The modifiers add `NNN` seconds, minutes, hours, days, months or years, or a
time `±HH:MM[:SS[.SSS]]`; move to the `start of` the day, month or year, or
forward to the next `weekday N`; or read the moment as local or universal
time. A moment that cannot be read, a modifier that cannot apply, or a result
outside the years −4713 to 9999 makes the function null.
-/

namespace Airspace.Store

/-- A moment as the date functions hold it while they read and change it.
Each of its three descriptions — the Julian day in milliseconds, the calendar
date, the time of day — is known or not (`hasJulian`, `hasDate`, `hasTime`).
A time of day may carry a zone (`hasZone`), which is taken off when the day
number is computed. A number not yet read as a day or as seconds is `raw`,
with its value in `second`. -/
structure Moment where
  julian : Int := 0
  year : Int := 0
  month : Int := 0
  day : Int := 0
  hour : Int := 0
  minute : Int := 0
  second : Float := 0
  /-- Minutes east of universal time. -/
  zone : Int := 0
  hasJulian : Bool := false
  hasDate : Bool := false
  hasTime : Bool := false
  hasZone : Bool := false
  raw : Bool := false
  /-- Whether a zone was written, so that the moment is already universal time. -/
  zoneSet : Bool := false
  /-- Whether the moment cannot be one; nothing later makes it one again but a
  reading as local or universal time. -/
  failed : Bool := false

/-- A moment that cannot be one. -/
def Moment.invalid : Moment := { failed := true }

/-- Milliseconds in a day. -/
def dayMillis : Int := 86400000

/-- The last Julian day in milliseconds the functions accept: the end of 9999. -/
def lastJulian : Int := 464269060799999

/-- Whether a Julian day in milliseconds lies from noon of 24 November 4714 BC
to the end of 9999. -/
def validJulian (j : Int) : Bool := 0 ≤ j && j ≤ lastJulian

/-- The moment with its day number known. It is computed from the date
(2000-01-01 when there is none) and the time of day, less the zone, which
then stands in for both. A year outside −4713 to 9999, or a number not read
yet, fails. -/
def Moment.withJulian (p : Moment) : Moment :=
  if p.hasJulian then p
  else
    let (y, m, d) := if p.hasDate then (p.year, p.month, p.day) else (2000, 1, 1)
    if y < -4713 || y > 9999 || p.raw then Moment.invalid
    else
      let (y, m) := if m ≤ 2 then (y - 1, m + 12) else (y, m)
      let a := y.tdiv 100
      let b := 2 - a + a.tdiv 4
      let x1 := (36525 * (y + 4716)).tdiv 100
      let x2 := (306001 * (m + 1)).tdiv 10000
      let start := realToInteger ((Float.ofInt (x1 + x2 + d + b) - 1524.5) * 86400000)
      if !p.hasTime then { p with julian := start, hasJulian := true }
      else
        let julian := start + p.hour * 3600000 + p.minute * 60000 + realToInteger (p.second * 1000 + 0.5)
        if p.hasZone then
          { p with julian := julian - p.zone * 60000, hasJulian := true, hasDate := false, hasTime := false,
                   hasZone := false }
        else { p with julian, hasJulian := true }

/-- The moment with its date known: the date of its day number, or 2000-01-01
when it has none. A day number out of range fails. -/
def Moment.withDate (p : Moment) : Moment :=
  if p.hasDate then p
  else if !p.hasJulian then { p with year := 2000, month := 1, day := 1, hasDate := true }
  else if !validJulian p.julian then Moment.invalid
  else
    let z := (p.julian + 43200000).tdiv dayMillis
    let a := realToInteger ((Float.ofInt z - 1867216.25) / 36524.25)
    let a := z + 1 + a - a.tdiv 4
    let b := a + 1524
    let c := realToInteger ((Float.ofInt b - 122.1) / 365.25)
    let d := (36525 * (c % 32768)).tdiv 100
    let e := realToInteger (Float.ofInt (b - d) / 30.6001)
    let x1 := realToInteger (30.6001 * Float.ofInt e)
    let month := if e < 14 then e - 1 else e - 13
    { p with year := if month > 2 then c - 4716 else c - 4715, month, day := b - d - x1, hasDate := true }

/-- The moment with its time of day known: the time of its day number. -/
def Moment.withTime (p : Moment) : Moment :=
  if p.hasTime then p
  else
    let p := p.withJulian
    let s := Float.ofInt ((p.julian + 43200000).tmod dayMillis) / 1000
    let whole := realToInteger s
    let hour := whole.tdiv 3600
    let rest := whole - hour * 3600
    let minute := rest.tdiv 60
    { p with hour, minute, second := s - Float.ofInt whole + Float.ofInt (rest - minute * 60), raw := false,
             hasTime := true }

/-- The moment with its date and its time of day known. -/
def Moment.withParts (p : Moment) : Moment := p.withDate.withTime

/-- The moment by its day number only. -/
def Moment.cleared (p : Moment) : Moment := { p with hasDate := false, hasTime := false, hasZone := false }

/-- A number as the first argument: a Julian day when it is one, and kept raw
for `unixepoch` and `auto` to read as seconds. -/
def Moment.ofNumber (r : Float) : Moment :=
  if r ≥ 0 && r < 5373484.5 then { second := r, raw := true, julian := realToInteger (r * 86400000 + 0.5), hasJulian := true }
  else { second := r, raw := true }

/-- The Julian day in milliseconds of the engine's clock, 2024-01-01 00:00:00.
The store keeps no source of time, so the current instant is a fixed one, the
same at which it stamps its own changes. -/
def clockJulian : Int := 212570827200000

/-- The moment of the engine's clock. -/
def clockMoment : Moment := { julian := clockJulian, hasJulian := true }

/-- Reads `count` digits at the start of a text as a number from `least` to
`most`, followed by the byte `next` when one is given. -/
def dateField (count least most : Nat) (next : Option UInt8) (bs : List UInt8) : Option Nat :=
  let ds := bs.take count
  if ds.length != count || !ds.all isDigit then none
  else
    let v := ds.foldl (fun acc b => 10 * acc + digitValue b) 0
    if v < least || v > most then none
    else match next with
      | some c => if bs.getD count 0 == c then some v else none
      | none => some v

/-- Reads a zone after a time of day: blanks, then `Z` or `±HH:MM` (hours to
14), then blanks to the end. Gives the offset in minutes and whether a zone
was written; nothing but blanks is no zone. -/
def readZone (bs : List UInt8) : Option (Int × Bool) :=
  match bs.dropWhile isSpace with
  | [] => some (0, false)
  | c :: rest =>
    if c == 0x5A || c == 0x7A then
      if (rest.dropWhile isSpace).isEmpty then some (0, true) else none
    else if c == 0x2D || c == 0x2B then
      match dateField 2 0 14 (some 0x3A) rest, dateField 2 0 59 none (rest.drop 3) with
      | some h, some m =>
        if ((rest.drop 5).dropWhile isSpace).isEmpty then
          some ((if c == 0x2D then -1 else 1) * ((m + h * 60 : Nat) : Int), true)
        else none
      | _, _ => none
    else none

/-- The fraction of a second its digits after the point stand for, summed as
the engine sums them. -/
def secondFraction (ds : List UInt8) : Float :=
  let (value, scale) := ds.foldl
    (fun (acc : Float × Float) b => (acc.1 * 10 + Float.ofNat b.toNat - 48, acc.2 * 10)) (0, 1)
  value / scale

/-- A time of day as read from text: hours, minutes, seconds, the zone's
offset in minutes and whether a zone was written. -/
structure ClockReading where
  hour : Nat
  minute : Nat
  second : Float
  zone : Int
  zoneSet : Bool

/-- Reads `HH:MM`, `HH:MM:SS` or `HH:MM:SS.SSS` (hours to 24, any number of
digits after the point), then a zone. -/
def readClock (bs : List UInt8) : Option ClockReading := do
  let hour ← dateField 2 0 24 (some 0x3A) bs
  let minute ← dateField 2 0 59 none (bs.drop 3)
  let (second, rest) ← match bs.drop 5 with
    | 0x3A :: more => do
      let s ← dateField 2 0 59 none more
      match more.drop 2 with
      | 0x2E :: d :: tail =>
        if isDigit d then
          let ds := (d :: tail).takeWhile isDigit
          pure (Float.ofNat s + secondFraction ds, (d :: tail).drop ds.length)
        else pure (Float.ofNat s, more.drop 2)
      | r => pure (Float.ofNat s, r)
    | r => pure (0, r)
  let (zone, zoneSet) ← readZone rest
  pure { hour, minute, second, zone, zoneSet }

/-- A moment given a time of day read from text in place of its own. -/
def Moment.atClock (p : Moment) (c : ClockReading) : Moment :=
  { p with hour := c.hour, minute := c.minute, second := c.second, hasTime := true, hasJulian := false,
           raw := false, zone := c.zone, hasZone := c.zone != 0, zoneSet := p.zoneSet || c.zoneSet }

/-- Reads a date `YYYY-MM-DD`, maybe after a minus sign, then blanks or `T`,
then a time of day or nothing. The day is only checked to be at most 31. -/
def readDate (bs : List UInt8) : Option Moment := do
  let (negative, bs) : Bool × List UInt8 := match bs with
    | 0x2D :: r => (true, r)
    | r => (false, r)
  let y ← dateField 4 0 14712 (some 0x2D) bs
  let m ← dateField 2 1 12 (some 0x2D) (bs.drop 5)
  let d ← dateField 2 1 31 none (bs.drop 8)
  let rest := (bs.drop 10).dropWhile fun b => isSpace b || b == 0x54
  let base : Moment := { year := if negative then -(y : Int) else y, month := m, day := d, hasDate := true }
  match readClock rest with
  | some c =>
    let p := base.atClock c
    pure (if p.hasZone then p.withJulian else p)
  | none => if rest.isEmpty then pure base else none

/-- Reads the first argument's text: a date, a time of day, `now`, or a
number. -/
def readMoment (bs : List UInt8) : Option Moment :=
  match readDate bs with
  | some p => some p
  | none =>
    match readClock bs with
    | some c => some (({} : Moment).atClock c)
    | none =>
      if bs.map lowerByte == bytesOf "now" then some clockMoment
      else match readReal bs with
        | (r, .integer) | (r, .real) => some (Moment.ofNumber r)
        | _ => none

/-- The units a number of them can be added in: the name, the bound on the
number, and seconds in one. A month counts 30 days and a year 365 where a
fraction of one is added. -/
def dateUnits : List (String × Float × Float) :=
  [("second", 464269992787968, 1), ("minute", 7737900007424, 60), ("hour", 128969998336, 3600),
   ("day", 5373485, 86400), ("month", 176546, 2592000), ("year", 14713, 31536000)]

/-- Adds `r` of a unit of `scale` seconds to a moment. Whole months and years
move the date, so a day past the month's end runs into the next month; the
rest is added as time, rounded to the millisecond away from zero. -/
def Moment.addUnits (p : Moment) (unit : String) (r scale : Float) : Moment :=
  let rounder : Float := if r < 0 then -0.5 else 0.5
  let whole := realToInteger r
  let (p, r) :=
    if unit == "month" then
      let q := p.withParts
      let month := q.month + whole
      let shift := if month > 0 then (month - 1).tdiv 12 else (month - 12).tdiv 12
      ({ q with year := q.year + shift, month := month - shift * 12, hasJulian := false }, r - Float.ofInt whole)
    else if unit == "year" then
      let q := p.withParts
      ({ q with year := q.year + whole, hasJulian := false }, r - Float.ofInt whole)
    else (p, r)
  let p := p.withJulian
  Moment.cleared { p with julian := p.julian + realToInteger (r * 1000 * scale + rounder) }

/-- The moment read as local time and given in universal time; the two are
the same here, so it is the date and time of its day number, with the
seconds whole and the milliseconds added back. A moment that failed is
2000-01-01 00:00:00. -/
def Moment.asLocal (p : Moment) : Moment :=
  let q := p.withJulian
  let x := q.withParts
  let y := Moment.withParts { julian := ({ x with hasJulian := false, hasZone := false }).withJulian.julian,
                              hasJulian := true }
  { q with year := y.year, month := y.month, day := y.day, hour := y.hour, minute := y.minute,
           second := Float.ofInt (realToInteger y.second) + Float.ofInt (q.julian.tmod 1000) * 0.001,
           hasDate := true, hasTime := true, hasJulian := false, raw := false, hasZone := false, failed := false }

/-- The moment by its day number, given in milliseconds as a real. -/
def Moment.atJulianMillis (p : Moment) (r : Float) : Moment :=
  { p.cleared with julian := realToInteger (r + 0.5), hasJulian := true, raw := false }

/-- A modifier that starts with a sign or a digit: a time `±HH:MM[:SS[.SSS]]`
added or taken away, or a number and a unit. -/
def Moment.shift (p : Moment) (text : List UInt8) : Option Moment :=
  let n := 1 + ((text.drop 1).takeWhile fun b => b != 0x3A && !isSpace b).length
  match readReal (text.take n) with
  | (r, .integer) | (r, .real) =>
    if text.getD n 0 == 0x3A then
      let clockText := match text with
        | c :: rest => if isDigit c then text else rest
        | [] => []
      match readClock clockText with
      | some c =>
        let j := (({} : Moment).atClock c).withJulian.julian - 43200000
        let j := j - j.tdiv dayMillis * dayMillis
        let j := if text.head? == some 0x2D then -j else j
        let q := p.withJulian.cleared
        some { q with julian := q.julian + j }
      | none => none
    else
      let unitText := (text.drop n).dropWhile isSpace
      let len := unitText.length
      if len > 10 || len < 3 then none
      else
        let len := if lowerByte (unitText.getD (len - 1) 0) == 0x73 then len - 1 else len
        let name := (unitText.take len).map lowerByte
        match dateUnits.find? (fun (unit, limit, _) => bytesOf unit == name && r > -limit && r < limit) with
        | some (unit, _, scale) => some (p.withJulian.addUnits unit r scale)
        | none => none
  | _ => none

/-- The moment changed by a modifier, or `none` when the text is not a
modifier or it cannot apply. `first` tells whether it is the first modifier,
the only place for `auto`, `julianday` and `unixepoch`. -/
def Moment.modify (p : Moment) (first : Bool) (text : List UInt8) : Option Moment :=
  let lower := text.map lowerByte
  let isWord := fun (word : String) => lower == bytesOf word
  match lower with
  | 0x61 :: _ =>
    if !isWord "auto" || !first then none
    else if !p.raw || p.hasJulian then some { p with raw := false }
    else if p.second ≥ -210866760000 && p.second ≤ 253402300799 then
      some (p.atJulianMillis (p.second * 1000 + 210866760000000))
    else none
  | 0x6A :: _ => if isWord "julianday" && first && p.hasJulian && p.raw then some { p with raw := false } else none
  | 0x6C :: _ => if isWord "localtime" then some p.asLocal else none
  | 0x75 :: _ =>
    if isWord "unixepoch" && p.raw then
      let r := p.second * 1000 + 210866760000000
      if first && r ≥ 0 && r < 464269060800000 then some (p.atJulianMillis r) else none
    else if isWord "utc" then
      some (if p.zoneSet then p else { julian := p.withJulian.julian, hasJulian := true, zoneSet := true })
    else none
  | 0x77 :: _ =>
    if lower.take 8 != bytesOf "weekday " then none
    else match readReal (text.drop 8) with
      | (r, .integer) | (r, .real) =>
        let n := realToInteger r
        if Float.ofInt n == r && n ≥ 0 && r < 7 then
          let q := Moment.withJulian { p.withParts with hasZone := false, hasJulian := false }
          let z := ((q.julian + 129600000).tdiv dayMillis).tmod 7
          let z := if z > n then z - 7 else z
          some (Moment.cleared { q with julian := q.julian + (n - z) * dayMillis })
        else none
      | _ => none
  | 0x73 :: _ =>
    if lower.take 9 != bytesOf "start of " || (!p.hasJulian && !p.hasDate && !p.hasTime) then none
    else
      let q := { p.withDate with hasTime := true, hour := 0, minute := 0, second := 0, raw := false,
                                 hasZone := false, hasJulian := false }
      let unit := lower.drop 9
      if unit == bytesOf "month" then some { q with day := 1 }
      else if unit == bytesOf "year" then some { q with month := 1, day := 1 }
      else if unit == bytesOf "day" then some q
      else none
  | c :: _ => if c == 0x2B || c == 0x2D || isDigit c then p.shift text else none
  | [] => none

/-- Applies modifiers in turn; a null one fails. -/
def Moment.modifyAll (p : Moment) (first : Bool) : List Cell → Option Moment
  | [] => some p
  | .null :: _ => none
  | c :: rest =>
    match p.modify first (beforeNul c.textBytes) with
    | some q => q.modifyAll false rest
    | none => none

/-- The moment a date function's arguments name: the first read as a moment
(the clock when there are none), changed by each modifier after it. It is
`none` when any of them fails or the moment falls outside the years the
functions cover. -/
def momentOf (args : List Cell) : Option Moment := do
  let (start, modifiers) ← match args with
    | [] => some (clockMoment, [])
    | .null :: _ => none
    | .integer n :: rest => some (Moment.ofNumber (Float.ofInt n), rest)
    | .real x :: rest => some (Moment.ofNumber x, rest)
    | c :: rest => (readMoment (beforeNul c.textBytes)).map fun p => (p, rest)
  let p ← start.modifyAll true modifiers
  let p := p.withJulian
  if p.failed || !validJulian p.julian then none else some p

/-- Writes a number with at least `width` characters, zeros after a minus sign
or in front. -/
def paddedNumber (width : Nat) (n : Int) : String :=
  let digits := toString n.natAbs
  let sign := if n < 0 then "-" else ""
  sign ++ String.ofList (List.replicate (width - sign.length - digits.length) '0') ++ digits

/-- The last two decimal digits of a number. -/
def lastTwoDigits (n : Int) : String := toString (n.natAbs / 10 % 10) ++ toString (n.natAbs % 10)

/-- The date of a moment, `YYYY-MM-DD`, with a minus sign before a year BC. -/
def Moment.dateText (p : Moment) : String :=
  let y := p.year.natAbs
  (if p.year < 0 then "-" else "") ++ toString (y / 1000 % 10) ++ toString (y / 100 % 10) ++
    toString (y / 10 % 10) ++ toString (y % 10) ++ "-" ++ lastTwoDigits p.month ++ "-" ++ lastTwoDigits p.day

/-- The time of day of a moment, `HH:MM:SS`, the seconds cut to whole ones. -/
def Moment.timeText (p : Moment) : String :=
  lastTwoDigits p.hour ++ ":" ++ lastTwoDigits p.minute ++ ":" ++ lastTwoDigits (realToInteger p.second)

/-- The day number of a moment as a real. -/
def Moment.julianDay (p : Moment) : Float := Float.ofInt p.julian / 86400000

/-- What a `strftime` code letter stands for in a moment, or `none` for a
letter that is not a code. -/
def Moment.part (p : Moment) (c : UInt8) : Option String :=
  match c with
  | 0x64 => some (paddedNumber 2 p.day)
  | 0x66 =>
    let text := formatReal .fixed 3 false (if p.second > 59.999 then 59.999 else p.second)
    some (String.ofList (List.replicate (6 - text.length) '0') ++ text)
  | 0x48 => some (paddedNumber 2 p.hour)
  | 0x57 | 0x6A =>
    let start := Moment.withJulian { p with hasJulian := false, month := 1, day := 1 }
    let days := (p.julian - start.julian + 43200000).tdiv dayMillis
    if c == 0x57 then
      let weekday := ((p.julian + 43200000).tdiv dayMillis).tmod 7
      some (paddedNumber 2 ((days + 7 - weekday).tdiv 7))
    else some (paddedNumber 3 (days + 1))
  | 0x4A => some (formatReal .significant 16 false p.julianDay)
  | 0x6D => some (paddedNumber 2 p.month)
  | 0x4D => some (paddedNumber 2 p.minute)
  | 0x73 => some (toString (p.julian.tdiv 1000 - 210866760000))
  | 0x53 => some (paddedNumber 2 (realToInteger p.second))
  | 0x77 => some (toString (((p.julian + 129600000).tdiv dayMillis).tmod 7))
  | 0x59 => some (paddedNumber 4 p.year)
  | 0x25 => some "%"
  | _ => none

/-- A format with each `%` and the letter after it replaced by what the code
stands for in a moment; `none` when a code is unknown or the format ends in
a lone `%`. -/
def Moment.formatted (p : Moment) : List UInt8 → Option (List UInt8)
  | [] => some []
  | 0x25 :: c :: rest =>
    match p.part c, p.formatted rest with
    | some t, some r => some (bytesOf t ++ r)
    | _, _ => none
  | [0x25] => none
  | b :: rest => (p.formatted rest).map (b :: ·)

/-- The value of a call of a date function, by its name in lower case. -/
def dateFunction (name : String) (args : List Cell) : Cell :=
  let text := fun (s : String) => Cell.text (bytesOf s)
  if name == "strftime" then
    match args with
    | [] | .null :: _ => .null
    | format :: rest =>
      match momentOf rest with
      | some p =>
        match p.withParts.formatted (beforeNul format.textBytes) with
        | some t => .text t
        | none => .null
      | none => .null
  else
    match momentOf args with
    | none => .null
    | some p =>
      if name == "date" then text p.withDate.dateText
      else if name == "time" then text p.withTime.timeText
      else if name == "datetime" then text (p.withParts.dateText ++ " " ++ p.withParts.timeText)
      else if name == "julianday" then .real p.julianDay
      else .integer (p.julian.tdiv 1000 - 210866760000)

end Airspace.Store
