import Airspace.Decimal.Read

/-!
# Numbers as the database engine reads and writes them

The database engine converts between text and numbers with its own routines,
and they are not the correctly rounded conversions of the rest of the library.
Stored values go through them, so the store reproduces them step by step, in
binary64 arithmetic:

* **Text to real.** Spaces (ASCII blanks) around the number are skipped. The
  digits are gathered into a signed 64-bit significand; once it is past
  `(2^63 - 10) / 10`, further digits only move the decimal exponent. The
  exponent's digits stop counting at 10000. The significand is then scaled by
  a power of ten built by repeated squaring of ten — for exponents past 307
  by such a power and then by `10^308`, and anything past 341 is zero or
  infinite. The result can differ from the nearest binary64 number in its last
  place.
* **Text to integer.** Spaces, a sign, digits; the value is clamped to the
  64-bit range and the reading says whether the text was exactly an integer,
  had other text after it, overflowed, or was exactly `2^63`.
* **Real to text.** Fifteen significant digits, positional for decimal
  exponents `-4 … 14` and otherwise `d.ddde±XX`, trailing zeros dropped but at
  least one digit kept after the point (`1.0`, `1.0e+20`). The digits come from
  repeated scaling and truncation of the value, with a rounding term added
  first, so they are not always the correctly rounded ones; `-0` prints as
  `0.0` and infinities as `Inf` and `-Inf`.
-/

namespace Airspace.Store

/-- The largest 64-bit integer. -/
def largestInt : Int := Int.pow 2 63 - 1

/-- The smallest 64-bit integer. -/
def smallestInt : Int := -(Int.pow 2 63)

/-- A binary64 constant written in decimal, rounded to nearest. -/
def decimalConstant (digits : Nat) (exponent : Int) : Float :=
  Decimal.Literal.toFloat ⟨false, digits, exponent⟩

/-- Whether a byte is one of the engine's spaces: blank, tab, line feed, vertical tab, form feed, return. -/
def isSpace (b : UInt8) : Bool := b == 0x20 || (0x09 ≤ b && b ≤ 0x0D)

/-- Whether a byte is an ASCII digit. -/
def isDigit (b : UInt8) : Bool := 0x30 ≤ b && b ≤ 0x39

/-- The value of a digit byte. -/
def digitValue (b : UInt8) : Nat := b.toNat - 0x30

/-- A text's bytes. -/
def bytesOf (s : String) : List UInt8 := s.toUTF8.data.toList

/-- The text's bytes up to its first NUL. -/
def beforeNul (bs : List UInt8) : List UInt8 := bs.takeWhile (· != 0)

/-- A byte in ASCII lower case. -/
def lowerByte (b : UInt8) : UInt8 := if 0x41 ≤ b && b ≤ 0x5A then b + 0x20 else b

/-- A byte in ASCII upper case. -/
def upperByte (b : UInt8) : UInt8 := if 0x61 ≤ b && b ≤ 0x7A then b - 0x20 else b

/-- What kind of number a text is, as the engine's reading of it finds. -/
inductive Reading where
  /-- The whole text is an integer: digits, spaces around. -/
  | integer
  /-- The whole text is a number with a point or an exponent. -/
  | real
  /-- A number with a point, or with a complete exponent, is followed by other text. -/
  | leading
  /-- The text is not a number. -/
  | absent
  deriving DecidableEq, Repr

/-- The significand past which further digits only move the exponent. -/
def significandCutoff : Nat := (Nat.pow 2 63 - 1 - 9) / 10

/-- Integer digits: they join the significand until it passes the cutoff, and
then only raise the exponent. Returns the significand, the exponent shift, the
digits taken into the significand and the rest. -/
def wholeDigits (s : Nat) (shift : Int) (taken : Nat) : List UInt8 → Nat × Int × Nat × List UInt8
  | [] => (s, shift, taken, [])
  | b :: rest =>
    if isDigit b then
      let s := 10 * s + digitValue b
      if s ≥ significandCutoff then
        let skipped := rest.takeWhile isDigit
        (s, shift + skipped.length, taken + 1, rest.drop skipped.length)
      else wholeDigits s shift (taken + 1) rest
    else (s, shift, taken, b :: rest)

/-- Digits after the point: each one still below the cutoff joins the
significand and lowers the exponent; the others are skipped. -/
def fractionDigits (s : Nat) (shift : Int) (taken : Nat) : List UInt8 → Nat × Int × Nat × List UInt8
  | [] => (s, shift, taken, [])
  | b :: rest =>
    if isDigit b then
      if s < significandCutoff then fractionDigits (10 * s + digitValue b) (shift - 1) (taken + 1) rest
      else fractionDigits s shift taken rest
    else (s, shift, taken, b :: rest)

/-- Exponent digits, the value held at 10000 once it gets there; also whether any digit was seen. -/
def exponentValue (e : Nat) (seen : Bool) : List UInt8 → Nat × Bool × List UInt8
  | [] => (e, seen, [])
  | b :: rest =>
    if isDigit b then exponentValue (if e < 10000 then 10 * e + digitValue b else 10000) true rest
    else (e, seen, b :: rest)

/-- Moves powers of ten between the exponent and the significand while that is
exact: up while the significand stays below `(2^63 - 1) / 10`, down while it
ends in a zero. -/
def reduceExponent (up : Bool) : Nat → Nat → Nat × Nat
  | s, 0 => (s, 0)
  | s, e + 1 =>
    if up then
      if s ≥ (Nat.pow 2 63 - 1) / 10 then (s, e + 1) else reduceExponent up (10 * s) e
    else
      if s % 10 != 0 then (s, e + 1) else reduceExponent up (s / 10) e

/-- `x` multiplied by `factor` `n` times, one rounding each time. -/
def timesRepeated (factor : Float) : Nat → Float → Float
  | 0, x => x
  | n + 1, x => timesRepeated factor n (x * factor)

/-- `r · x^e` by repeated squaring: `r` takes the factor `x` for each set bit
of `e` from the lowest, and `x` is squared before each further bit; every
product is rounded. -/
def squaredPower (x r : Float) (e : Nat) : Float :=
  let r := if e % 2 = 1 then r * x else r
  if h : e / 2 = 0 then r else squaredPower (x * x) r (e / 2)
termination_by e
decreasing_by omega

/-- The engine's power of ten, built by repeated squaring; exact up to `10^22`
and a few units in the last place off beyond. -/
def powerOfTen (e : Nat) : Float := squaredPower 10 1 e

/-- The engine's value of `± s · 10^(± e)` for a significand `s > 0`. -/
def scaleSignificand (negative : Bool) (s : Nat) (up : Bool) (e : Nat) : Float :=
  let (s, e) := reduceExponent up s e
  let x := Binary64.ofParts ⟨negative, s, 0⟩
  if e = 0 then x
  else if e > 307 then
    if e < 342 then
      let scale := powerOfTen (e - 308)
      if up then x * scale * decimalConstant 1 308 else x / scale / decimalConstant 1 308
    else if up then x * Binary64.inf else x * 0
  else
    let scale := powerOfTen e
    if up then x * scale else x / scale

/-- The engine's reading of a text as a real: the value of the number at its
start (zero if there is none) and what kind of number the text is. -/
def readReal (bs : List UInt8) : Float × Reading :=
  let bs := bs.dropWhile isSpace
  if bs.isEmpty then (0, .absent)
  else
    let (negative, bs) : Bool × List UInt8 := match bs with
      | 0x2D :: r => (true, r)
      | 0x2B :: r => (false, r)
      | r => (false, r)
    let (s, shift, taken, bs) := wholeDigits 0 0 0 bs
    let (s, shift, taken, hasPoint, bs) : Nat × Int × Nat × Bool × List UInt8 := match bs with
      | 0x2E :: r =>
        let (s, shift, taken, r) := fractionDigits s shift taken r
        (s, shift, taken, true, r)
      | r => (s, shift, taken, false, r)
    -- the exponent: its value with sign, whether it is complete, whether there is one
    let (e, complete, hasExponent, bs) : Int × Bool × Bool × List UInt8 := match bs with
      | b :: r =>
        if b == 0x65 || b == 0x45 then
          let (negativeExponent, r) : Bool × List UInt8 := match r with
            | 0x2D :: r' => (true, r')
            | 0x2B :: r' => (false, r')
            | r' => (false, r')
          let (e, seen, r) := exponentValue 0 false r
          (if negativeExponent then -(e : Int) else e, seen, true, r)
        else (0, true, false, b :: r)
      | [] => (0, true, false, [])
    let bs := bs.dropWhile isSpace
    let total := e + shift
    let value :=
      if s = 0 then Binary64.pack negative 0 0
      else scaleSignificand negative s (total ≥ 0) total.natAbs
    let kind : Nat := 1 + (if hasPoint then 1 else 0) + (if hasExponent then 1 else 0)
    if bs.isEmpty && taken > 0 && complete then (value, if kind = 1 then .integer else .real)
    else if kind ≥ 2 && (kind = 3 || complete) && taken > 0 then (value, .leading)
    else (value, .absent)

/-- How a text reads as a 64-bit integer. -/
inductive IntegerFit where
  /-- Exactly an integer in range, spaces around. -/
  | exact
  /-- An integer in range followed by other text. -/
  | trailing
  /-- Digits beyond the range. -/
  | overflow
  /-- Exactly `2^63` without a minus sign. -/
  | boundary
  /-- No digits. -/
  | empty
  deriving DecidableEq, Repr

/-- The engine's reading of a text as a 64-bit integer: the value of its
leading integer, clamped to the range, and how the text fits. -/
def readInteger (bs : List UInt8) : Int × IntegerFit :=
  let bs := bs.dropWhile isSpace
  let (negative, bs) : Bool × List UInt8 := match bs with
    | 0x2D :: r => (true, r)
    | 0x2B :: r => (false, r)
    | r => (false, r)
  let zeros := bs.takeWhile (· == 0x30)
  let bs := bs.drop zeros.length
  let ds := bs.takeWhile isDigit
  let rest := bs.drop ds.length
  let u := ds.foldl (fun acc b => 10 * acc + digitValue b) 0
  let fit : IntegerFit :=
    if ds.isEmpty && zeros.isEmpty then .empty
    else if rest.any (fun b => !isSpace b) then .trailing
    else .exact
  if u > Nat.pow 2 63 then (if negative then smallestInt else largestInt, .overflow)
  else if u = Nat.pow 2 63 then (if negative then (smallestInt, fit) else (largestInt, .boundary))
  else (if negative then -(u : Int) else u, fit)

/-- The engine's reading of an integer literal of a statement, decimal or
`0x` hexadecimal: its value and how it fits. A hexadecimal literal keeps the
bits of up to sixteen digits, so `0xFFFFFFFFFFFFFFFF` is `-1`; more digits
overflow. -/
def readLiteralInteger (bs : List UInt8) : Int × IntegerFit :=
  match bs with
  | 0x30 :: x :: r@(_ :: _) =>
    if x == 0x78 || x == 0x58 then
      let ds := (r.dropWhile (· == 0x30)).map fun b =>
        if isDigit b then digitValue b else ((b ||| 0x20).toNat - 0x61 + 10)
      let u : Nat := (ds.foldl (fun (acc d : Nat) => 16 * acc + d) 0) % Nat.pow 2 64
      let v : Int := if u ≥ Nat.pow 2 63 then (u : Int) - Int.pow 2 64 else u
      (v, if ds.length > 16 then .overflow else .exact)
    else readInteger bs
  | _ => readInteger bs

/-- Conversion of a real to a 64-bit integer by truncation, clamped to the range. -/
def realToInteger (x : Float) : Int :=
  if x.isNaN then smallestInt
  else if x ≤ Float.ofInt smallestInt then smallestInt
  else if x ≥ Float.ofInt largestInt then largestInt
  else Binary64.truncInt x

/-- Whether a real is zero, or is the integer `i` exactly with `|i| < 2^51`:
then the engine keeps a number read from text as that integer. -/
def realSameAsInteger (x : Float) (i : Int) : Bool :=
  x == 0 || (x.toBits == (Float.ofInt i).toBits && -(Int.pow 2 51) ≤ i && i < Int.pow 2 51)

/-- The rounding term added before the digits are taken: half a unit in the
last of `precision + 1` significant digits, built as the engine builds it. -/
def roundingTerm (precision : Nat) : Float :=
  timesRepeated (decimalConstant 1 (-10)) (precision / 10) (decimalConstant 5 (-((precision % 10 : Nat) : Int) - 1))

/-- Scales a positive value by powers of ten while it is at least `limit · scale`,
at most while the decimal exponent has not passed 350. -/
def growScale (x step limit : Float) (gain : Int) : Nat → Float × Int → Float × Int
  | 0, acc => acc
  | fuel + 1, (scale, exp) =>
    if x ≥ limit * scale && exp ≤ 350 then growScale x step limit gain fuel (scale * step, exp + gain)
    else (scale, exp)

/-- Multiplies a small positive value by `factor` while it is below `limit`. -/
def raiseBelow (factor limit : Float) (gain : Int) : Nat → Float × Int → Float × Int
  | 0, acc => acc
  | fuel + 1, (x, exp) =>
    if x < limit then raiseBelow factor limit gain fuel (x * factor, exp - gain) else (x, exp)

/-- Takes `n` digits off a value in `[0, 10)`: each is the truncated value, and
the remainder is multiplied by ten. After `budget` digits only zeros come. -/
def takeDigits : Nat → Nat → Float → List Char
  | 0, _, _ => []
  | n + 1, budget, x =>
    if budget = 0 then '0' :: takeDigits n 0 x
    else
      let d := x.toUInt64.toNat
      Char.ofNat (0x30 + d) :: takeDigits n (budget - 1) ((x - Float.ofNat d) * 10)

/-- How the engine writes a real: with a number of places after the point,
in exponent form with a number of places, or with a number of significant
digits in whichever of the two suits the exponent. -/
inductive RealStyle where
  | fixed
  | exponent
  | significant
  deriving DecidableEq, Repr

/-- The binary exponent of a real, as its bits store it, less the bias. -/
def storedExponent (x : Float) : Int := Int.ofNat ((x.toBits >>> 52).toNat % 2048) - 1023

/-- How a real is to be written: the style and its number of places (or
significant digits), whether up to 26 digits are exact rather than 16 with
trailing zeros dropped but one digit kept after the point (`wide`), whether the
point and trailing zeros always stay (`alternate`), the mark put before a value
that is not negative, whether the whole part is grouped in threes by commas,
and the letter before an exponent. -/
structure RealFormat where
  style : RealStyle
  precision : Nat
  wide : Bool := false
  alternate : Bool := false
  plusMark : Option Char := none
  grouped : Bool := false
  exponentLetter : Char := 'e'

/-- The digits of a whole part, with a comma after every digit that has a
positive multiple of three digits after it. -/
def groupedWhole : Nat → List Char → List Char
  | _, [] => []
  | k, d :: ds =>
    let rest := groupedWhole (k - 1) ds
    if k % 3 = 1 && k > 3 then d :: ',' :: rest else d :: rest

/-- The engine's text of a real in the given format. Where `wide`, up to 26
digits are exact rather than 16, and trailing zeros are dropped but one digit
kept after the point; without it a significant-digits text drops trailing zeros
and a bare point unless `alternate`, and the other styles keep them. Not-a-number
is `NaN` and a value too large to scale is `Inf` after its sign. -/
def RealFormat.render (f : RealFormat) (value : Float) : String :=
  let (negative, x) := if value < 0 then (true, -value) else (false, value)
  let sign := if negative then "-" else match f.plusMark with
    | some c => c.toString
    | none => ""
  let style := f.style
  let places := if style == .significant && f.precision > 0 then f.precision - 1 else f.precision
  let rounder := roundingTerm (places % 4096)
  let rounder :=
    if style == .fixed && (places : Int) + (storedExponent x).tdiv 3 < 15 then rounder + x * decimalConstant 3 (-16)
    else rounder
  let x := if style == .fixed then x + rounder else x
  if x.isNaN then "NaN"
  else
    let (x, exp, infinite) : Float × Int × Bool :=
      if x > 0 then
        let (scale, exp) := growScale x (decimalConstant 1 100) (decimalConstant 1 100) 100 8 (1, 0)
        let (scale, exp) := growScale x (decimalConstant 1 10) (decimalConstant 1 10) 10 40 (scale, exp)
        let (scale, exp) := growScale x 10 10 1 400 (scale, exp)
        let (x, exp) := raiseBelow (decimalConstant 1 8) (decimalConstant 1 (-8)) 8 64 (x / scale, exp)
        let (x, exp) := raiseBelow 10 1 1 16 (x, exp)
        (x, exp, exp > 350)
      else (x, 0, false)
    if infinite then sign ++ "Inf"
    else
      let (x, exp) := if style == .fixed then (x, exp)
        else
          let x := x + rounder
          if x ≥ 10 then (x * decimalConstant 1 (-1), exp + 1) else (x, exp)
      let exponential := style == .exponent || (style == .significant && (exp < -4 || exp > places))
      let trimZeros := if style == .significant then !f.alternate else f.wide
      let afterPoint : Int := if style == .significant && !exponential then places - exp else places
      let leading : Int := if exponential then 0 else exp
      -- digits before the point, zeros after it, and significant digits after them
      let (before, zeros, after) : Nat × Nat × Nat :=
        if leading < 0 then (0, min ((-leading).toNat - 1) afterPoint.toNat, afterPoint.toNat - min ((-leading).toNat - 1) afterPoint.toNat)
        else (leading.toNat + 1, 0, afterPoint.toNat)
      let point := afterPoint > 0 || f.alternate || f.wide
      let digits := takeDigits (before + after) (if f.wide then 26 else 16) x
      let whole := if before = 0 then ['0'] else digits.take before
      let whole := if f.grouped then groupedWhole whole.length whole else whole
      let fraction := List.replicate zeros '0' ++ digits.drop before
      let fraction := if trimZeros && point then (fraction.reverse.dropWhile (· == '0')).reverse else fraction
      let body :=
        if !point then sign ++ String.ofList whole
        else if fraction.isEmpty && trimZeros then
          sign ++ String.ofList whole ++ (if f.wide then ".0" else "")
        else sign ++ String.ofList whole ++ "." ++ String.ofList fraction
      if exponential then
        let e := exp.natAbs
        let eText := (if e ≥ 100 then toString (e / 100) else "") ++ toString (e % 100 / 10) ++ toString (e % 10)
        body ++ f.exponentLetter.toString ++ (if exp < 0 then "-" else "+") ++ eText
      else body

/-- The engine's text of a real in a style with `precision` places (or
significant digits), with nothing before a positive value, no grouping and a
lower-case exponent letter. -/
def formatReal (style : RealStyle) (precision : Nat) (wide : Bool) (value : Float) : String :=
  RealFormat.render { style, precision, wide } value

/-- The engine's text of a real: fifteen significant digits as described above. -/
def realText (value : Float) : String := formatReal .significant 15 true value

end Airspace.Store
