import Airspace.Binary64.Basic

/-!
# Reading decimal numbers

A decimal literal in the grammar of JSON numbers,
`-? (0 | [1-9][0-9]*) (. [0-9]+)? ([eE] [+-]? [0-9]+)?`, is read into its exact
value `± digits · 10^exponent` and then rounded once to binary64, ties to even,
in exact integer arithmetic.
Values beyond the largest finite value round to an infinity, which the callers
report as out of range; values below half the least subnormal round to zero.
-/

namespace Airspace.Decimal

/-- A decimal literal read exactly: `± digits · 10^exponent`. -/
structure Literal where
  negative : Bool
  digits : Nat
  exponent : Int
  deriving Repr, DecidableEq

/-- Leading decimal digits of a character list, and the rest. -/
def spanDigits (cs : List Char) : List Char × List Char :=
  (cs.takeWhile Char.isDigit, cs.dropWhile Char.isDigit)

/-- The natural number written by a digit list. -/
def digitsValue (ds : List Char) : Nat :=
  ds.foldl (fun acc d => 10 * acc + (d.toNat - '0'.toNat)) 0

/-- Reads the exponent part `[eE][+-]?digits`, which must end the text. -/
def readExponent : List Char → Option Int
  | [] => some 0
  | c :: rest =>
    if c = 'e' ∨ c = 'E' then
      let (negative, rest) := match rest with
        | '-' :: r => (true, r)
        | '+' :: r => (false, r)
        | r => (false, r)
      let (ds, tail) := spanDigits rest
      if ds.isEmpty ∨ ¬ tail.isEmpty then none
      else
        let v : Int := digitsValue ds
        some (if negative then -v else v)
    else none

/-- Reads a JSON number; `none` for any text outside the grammar. -/
def Literal.ofJson? (s : String) : Option Literal :=
  let cs := s.toList
  let (negative, cs) := match cs with
    | '-' :: r => (true, r)
    | r => (false, r)
  let (intDigits, rest) := spanDigits cs
  if intDigits.isEmpty ∨ (intDigits.length > 1 ∧ intDigits.head? = some '0') then none
  else
    let (fracDigits, rest, ok) := match rest with
      | '.' :: r =>
        let (fs, r') := spanDigits r
        (fs, r', !fs.isEmpty)
      | r => ([], r, true)
    if !ok then none
    else
      match readExponent rest with
      | none => none
      | some e =>
        some ⟨negative, digitsValue (intDigits ++ fracDigits), e - fracDigits.length⟩

/-- The binary64 value nearest to the literal, ties to even.

A nonnegative exponent makes the value an integer, which `Binary64.ofParts`
rounds once. A negative exponent `-n` divides by `10^n`: the quotient is taken
with `4n + 64` extra binary digits, far more than the 53 kept, and one more
digit records whether the division left a remainder, so that the single
rounding of `ofParts` sees the same side of every halfway point as the exact
quotient does. -/
def Literal.toFloat (l : Literal) : Float :=
  if l.digits = 0 then Binary64.pack l.negative 0 0
  else
    let order := ((toString l.digits).length : Int) + l.exponent
    if order > 310 then Binary64.pack l.negative 2047 0
    else if order < -330 then Binary64.pack l.negative 0 0
    else if l.exponent ≥ 0 then Binary64.ofParts ⟨l.negative, l.digits * Nat.pow 10 l.exponent.toNat, 0⟩
    else
      let n := (-l.exponent).toNat
      let k := 4 * n + 64
      let scaled := l.digits * Nat.pow 2 k
      let sticky := if scaled % Nat.pow 10 n = 0 then 0 else 1
      Binary64.ofParts ⟨l.negative, 2 * (scaled / Nat.pow 10 n) + sticky, -(k : Int) - 1⟩

/-- Whether the literal lies beyond the finite range, so that it rounds to an infinity. -/
def Literal.outOfRange (l : Literal) : Bool := l.toFloat.isInf

end Airspace.Decimal
