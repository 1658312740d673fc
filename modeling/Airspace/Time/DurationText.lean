import Airspace.Time.Instant

/-!
# Durations written as text

A duration is written as an optional sign and one or more terms, each a
decimal number followed by a unit: `ns`, `us` (also `µs` and `μs`), `ms`, `s`,
`m` or `h`, as in `1h30m`, `1.5h` or `-250ms`. A lone `0` needs no unit.

The whole part of each term is read exactly, and a term larger than 2^63
nanoseconds is refused. The fraction is read to as many digits as keep it
below 2^63, and its share of the unit is computed in binary64 and truncated,
which is exact to the nanosecond for every unit up to the hour. The terms are
summed in 64-bit unsigned arithmetic, a sum above 2^63 being refused; a
positive total must fit a signed 64-bit duration.
-/

namespace Airspace.Time

/-- The nanoseconds of a duration unit. -/
def unitNanos : String → Option Nat
  | "ns" => some 1
  | "us" | "µs" | "μs" => some 1000
  | "ms" => some 1000000
  | "s" => some 1000000000
  | "m" => some 60000000000
  | "h" => some 3600000000000
  | _ => none

/-- Whether a character can start a term: a digit or a point. -/
def startsTerm (c : Char) : Bool := c == '.' || c.isDigit

/-- The value of a whole part, digit by digit; none once it passes 2^63. -/
def wholePart : Nat → List Char → Option Nat
  | acc, [] => some acc
  | acc, d :: rest =>
    if acc > Nat.pow 2 63 / 10 then none
    else
      let acc := acc * 10 + (d.toNat - '0'.toNat)
      if acc > Nat.pow 2 63 then none else wholePart acc rest

/-- The digits of a fraction kept while the value stays below 2^63, and the
power of ten that divides them. -/
def fractionPart : Nat × Float × Bool → List Char → Nat × Float
  | (acc, scale, _), [] => (acc, scale)
  | (acc, scale, full), d :: rest =>
    if full then fractionPart (acc, scale, true) rest
    else if acc > (Nat.pow 2 63 - 1) / 10 then fractionPart (acc, scale, true) rest
    else
      let next := acc * 10 + (d.toNat - '0'.toNat)
      if next > Nat.pow 2 63 then fractionPart (acc, scale, true) rest
      else fractionPart (next, scale * 10, false) rest

/-- Reads the terms of a duration, adding them to `total`. -/
def readTerms : Nat → Nat → List Char → Option Nat
  | _, total, [] => some total
  | 0, _, _ => none
  | fuel + 1, total, cs@(c :: _) => do
    if !startsTerm c then none
    let whole := cs.takeWhile Char.isDigit
    let rest := cs.dropWhile Char.isDigit
    let v ← wholePart 0 whole
    let (fraction, scale, rest, post) := match rest with
      | '.' :: r =>
        let ds := r.takeWhile Char.isDigit
        let (f, scale) := fractionPart (0, 1, false) ds
        (f, scale, r.dropWhile Char.isDigit, !ds.isEmpty)
      | _ => (0, 1, rest, false)
    if whole.isEmpty && !post then none
    let unit := rest.takeWhile fun c => !startsTerm c
    if unit.isEmpty then none
    let u ← unitNanos (String.ofList unit)
    if v > Nat.pow 2 63 / u then none
    let v := v * u
    let v := if fraction > 0 then v + (Float.ofNat fraction * (Float.ofNat u / scale)).toUInt64.toNat else v
    if v > Nat.pow 2 63 then none
    let total := (total + v) % Nat.pow 2 64
    if total > Nat.pow 2 63 then none
    readTerms fuel total (rest.dropWhile fun c => !startsTerm c)

/-- The duration a text writes, if it writes one. -/
def Duration.parse? (s : String) : Option Duration :=
  let (negative, cs) := match s.toList with
    | '-' :: r => (true, r)
    | '+' :: r => (false, r)
    | r => (false, r)
  if cs == ['0'] then some 0
  else if cs.isEmpty then none
  else do
    let total ← readTerms cs.length 0 cs
    if negative then some (-(total : Int))
    else if total > Nat.pow 2 63 - 1 then none
    else some total

end Airspace.Time
