import Airspace.Store.Numeric

/-!
# Texts that read as times

The client library hands a text stored in a date column (declared `DATE`,
`DATETIME` or `TIMESTAMP`) to its field as a time when the text matches one
of its layouts, and as the text otherwise. The layouts, tried in turn after a
final `Z` is dropped, are

* `2006-01-02 15:04:05.999999999-07:00`, and the same with `T` for the blank;
* `2006-01-02 15:04:05.999999999`, with `T` too;
* `2006-01-02 15:04`, with `T` too;
* `2006-01-02`;

and first the form a time writes itself in, `2006-01-02 15:04:05.999999999
-0700 MST`, spaces around it trimmed and anything from `m=` on dropped.

A layout is matched part by part: the year is four characters read as a
signed number, the month, day, minute and second two digits each, the hour
one or two digits; a fraction of a second is optional (a point or comma and
digits); a numeric zone is a sign and digits with or without a colon; a zone
name is three to five capital letters (a few shapes with other letters too).
A blank in a layout matches one or more blanks, or none at the end. The
values must be in range — month 1–12, day within the month, hour below 24,
minute and second below 60, zone offset at most 24 hours and 60 minutes — and
nothing may be left over.
-/

namespace Airspace.Store

/-- A part of a time layout. -/
inductive TimePart where
  | year
  | month
  | day
  | hour
  | minute
  | second
  /-- An optional fraction of a second. -/
  | fraction
  /-- `-07:00`. -/
  | colonZone
  /-- `-0700`. -/
  | numericZone
  /-- `MST`. -/
  | zoneName
  | literal (b : UInt8)
  /-- One or more blanks. -/
  | blank

/-- The fields read so far: year, month, day, hour, minute, second. -/
structure TimeFields where
  year : Int := 0
  month : Nat := 1
  day : Nat := 1
  hour : Nat := 0
  minute : Nat := 0
  second : Nat := 0
  inRange : Bool := true

/-- Reads exactly two digits. -/
def twoDigits : List UInt8 → Option (Nat × List UInt8)
  | a :: b :: rest => if isDigit a && isDigit b then some (10 * digitValue a + digitValue b, rest) else none
  | _ => none

/-- Reads one or two digits. -/
def oneOrTwoDigits : List UInt8 → Option (Nat × List UInt8)
  | a :: rest =>
    if !isDigit a then none
    else match rest with
      | b :: more => if isDigit b then some (10 * digitValue a + digitValue b, more) else some (digitValue a, rest)
      | [] => some (digitValue a, [])
  | [] => none

/-- Reads a year: four characters, an optional sign and digits. -/
def yearDigits (bs : List UInt8) : Option (Int × List UInt8) :=
  if bs.length < 4 then none
  else
    let p := bs.take 4
    let (negative, ds) : Bool × List UInt8 := match p with
      | 0x2D :: r => (true, r)
      | 0x2B :: r => (false, r)
      | r => (false, r)
    if ds.isEmpty || !ds.all isDigit then none
    else
      let v : Int := ds.foldl (fun acc b => 10 * acc + digitValue b) 0
      some (if negative then -v else v, bs.drop 4)

/-- Whether a year is a leap year. -/
def isLeapYear (y : Int) : Bool := y % 4 == 0 && (y % 100 != 0 || y % 400 == 0)

/-- The days of a month of a year. -/
def daysInMonth (m : Nat) (y : Int) : Nat :=
  if m == 2 then (if isLeapYear y then 29 else 28)
  else if m == 4 || m == 6 || m == 9 || m == 11 then 30
  else 31

/-- The length of a zone name at the start of a text, if one is there. -/
def zoneNameLength (bs : List UInt8) : Option Nat :=
  let upper := fun (b : UInt8) => 0x41 ≤ b && b ≤ 0x5A
  let start := bs.take 4
  if bs.length < 3 then none
  else if start == bytesOf "ChST" || start == bytesOf "MeST" then some 4
  else if bs.take 3 == bytesOf "GMT" then some 3
  else
    let n := (bs.take 6).takeWhile upper |>.length
    if n == 5 then (if bs.getD 4 0 == 0x54 then some 5 else none)
    else if n == 4 then (if bs.getD 3 0 == 0x54 || start == bytesOf "WITA" then some 4 else none)
    else if n == 3 then some 3
    else none

/-- Matches the parts of a layout against a text. -/
def matchTime : List TimePart → TimeFields → List UInt8 → Option TimeFields
  | [], f, rest => if rest.isEmpty then some f else none
  | p :: ps, f, bs =>
    match p with
    | .year => (yearDigits bs).bind fun (y, r) => matchTime ps { f with year := y } r
    | .month => (twoDigits bs).bind fun (m, r) =>
      matchTime ps { f with month := m, inRange := f.inRange && 1 ≤ m && m ≤ 12 } r
    | .day => (twoDigits bs).bind fun (d, r) => matchTime ps { f with day := d } r
    | .hour => (oneOrTwoDigits bs).bind fun (h, r) => matchTime ps { f with hour := h, inRange := f.inRange && h < 24 } r
    | .minute => (twoDigits bs).bind fun (m, r) => matchTime ps { f with minute := m, inRange := f.inRange && m < 60 } r
    | .second => (twoDigits bs).bind fun (s, r) => matchTime ps { f with second := s, inRange := f.inRange && s < 60 } r
    | .fraction =>
      match bs with
      | m :: d :: r =>
        if (m == 0x2E || m == 0x2C) && isDigit d then matchTime ps f (r.dropWhile isDigit) else matchTime ps f bs
      | _ => matchTime ps f bs
    | .colonZone =>
      match bs with
      | s :: h1 :: h2 :: c :: m1 :: m2 :: r =>
        if c != 0x3A || (s != 0x2B && s != 0x2D) then none
        else (twoDigits [h1, h2]).bind fun (h, _) => (twoDigits [m1, m2]).bind fun (m, _) =>
          matchTime ps { f with inRange := f.inRange && h ≤ 24 && m ≤ 60 } r
      | _ => none
    | .numericZone =>
      match bs with
      | s :: h1 :: h2 :: m1 :: m2 :: r =>
        if s != 0x2B && s != 0x2D then none
        else (twoDigits [h1, h2]).bind fun (h, _) => (twoDigits [m1, m2]).bind fun (m, _) =>
          matchTime ps { f with inRange := f.inRange && h ≤ 24 && m ≤ 60 } r
      | _ => none
    | .zoneName =>
      if bs.take 3 == bytesOf "UTC" then matchTime ps f (bs.drop 3)
      else match zoneNameLength bs with
        | some n => matchTime ps f (bs.drop n)
        | none => none
    | .literal b =>
      match bs with
      | c :: r => if c == b then matchTime ps f r else none
      | [] => none
    | .blank =>
      match bs with
      | [] => matchTime ps f []
      | c :: _ => if c == 0x20 then matchTime ps f (bs.dropWhile (· == 0x20)) else none

/-- Whether a text matches a layout with its values in range. -/
def fitsLayout (layout : List TimePart) (bs : List UInt8) : Bool :=
  match matchTime layout {} bs with
  | some f => f.inRange && 1 ≤ f.day && f.day ≤ daysInMonth f.month f.year
  | none => false

/-- A date, `2006-01-02`. -/
def dateParts : List TimePart := [.year, .literal 0x2D, .month, .literal 0x2D, .day]

/-- The layouts tried after the final `Z` is dropped. -/
def timeLayouts : List (List TimePart) :=
  let clock := [TimePart.hour, .literal 0x3A, .minute, .literal 0x3A, .second, .fraction]
  let shortClock := [TimePart.hour, .literal 0x3A, .minute]
  [dateParts ++ [.blank] ++ clock ++ [.colonZone], dateParts ++ [.literal 0x54] ++ clock ++ [.colonZone],
   dateParts ++ [.blank] ++ clock, dateParts ++ [.literal 0x54] ++ clock,
   dateParts ++ [.blank] ++ shortClock, dateParts ++ [.literal 0x54] ++ shortClock,
   dateParts]

/-- The layout a time writes itself in. -/
def writtenLayout : List TimePart :=
  dateParts ++ [.blank, .hour, .literal 0x3A, .minute, .literal 0x3A, .second, .fraction, .blank, .numericZone,
    .blank, .zoneName]

/-- The text before the first `m=`, if it has one after its start. -/
def beforeMonotonic (bs : List UInt8) : List UInt8 :=
  let rec go : Nat → List UInt8 → List UInt8 → List UInt8
    | _, acc, [] => acc.reverse
    | i, acc, b :: rest =>
      if b == 0x6D && rest.head? == some 0x3D && i > 0 then acc.reverse else go (i + 1) (b :: acc) rest
  go 0 [] bs

/-- Whether the client reads a text as a time. -/
def readsAsTime (bs : List UInt8) : Bool :=
  let trimmed := ((beforeMonotonic bs).dropWhile isSpace).reverse.dropWhile isSpace |>.reverse
  let noZ := if bs.getLast? == some 0x5A then bs.dropLast else bs
  fitsLayout writtenLayout trimmed || timeLayouts.any fun l => fitsLayout l noZ

end Airspace.Store
