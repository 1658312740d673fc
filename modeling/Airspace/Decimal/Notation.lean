import Airspace.Decimal.Shortest

/-!
# Writing a decimal: positional or with an exponent

The digits of a value are chosen once (`Decimal.shortest`, or a fixed number of
places); how they are laid out is a record of decisions, `Notation`: for which
decimal exponents the positional form is used, how the exponent is written, and
the texts of the values that have no digits. Each output format of the program
is one value of this record, defined beside the code that writes that output.
-/

namespace Airspace.Decimal

open Airspace.Binary64

/-- The layout decisions of a shortest-digits float text. -/
structure Notation where
  /-- The positional form is used when the exponent of the leading digit lies in
  `[positionalFrom, positionalTo]`, otherwise `d.ddd e±x`. -/
  positionalFrom : Int
  positionalTo : Int
  /-- The least number of exponent digits, padded with zeros. -/
  exponentDigits : Nat
  nanText : String
  posInfText : String
  negInfText : String

/-- `n` as decimal digits, left-padded with zeros to at least `width`. -/
def padDigits (n width : Nat) : String :=
  let s := toString n
  String.ofList (List.replicate (width - s.length) '0') ++ s

/-- The digit string `digits` with leading-digit exponent `exp`, in positional form. -/
def positional (digits : String) (exp : Int) : String :=
  let n := digits.length
  let point := exp + 1
  if point ≤ 0 then "0." ++ String.ofList (List.replicate (-point).toNat '0') ++ digits
  else if point ≥ n then digits ++ String.ofList (List.replicate (point.toNat - n) '0')
  else String.ofList (digits.toList.take point.toNat) ++ "." ++ String.ofList (digits.toList.drop point.toNat)

/-- The digit string `digits` with leading-digit exponent `exp`, as `d.ddde±x`. -/
def withExponent (digits : String) (exp : Int) (exponentDigits : Nat) : String :=
  let mantissa := match digits.toList with
    | [] => "0"
    | [d] => String.singleton d
    | d :: rest => String.singleton d ++ "." ++ String.ofList rest
  mantissa ++ "e" ++ (if exp < 0 then "-" else "+") ++ padDigits exp.natAbs exponentDigits

/-- The text of a value in shortest digits under a notation. -/
def Notation.render (n : Notation) (x : Float) : String :=
  if x.isNaN then n.nanText
  else if x.isInf then (if x > 0 then n.posInfText else n.negInfText)
  else
    let sign := if signBit x then "-" else ""
    if x == 0 then sign ++ "0"
    else
      let (digits, exp) := (shortest x).layoutParts
      if n.positionalFrom ≤ exp ∧ exp ≤ n.positionalTo then sign ++ positional digits exp
      else sign ++ withExponent digits exp n.exponentDigits

/-- The text of a value rounded to `places` digits after the point, the exact
binary value being rounded half to even. The sign is kept also when the
rounded value is zero. -/
def fixed (x : Float) (places : Nat) : String :=
  if x.isNaN then "NaN"
  else if x.isInf then (if x > 0 then "+Inf" else "-Inf")
  else
    let p := parts x
    let up := Nat.pow 2 p.exponent.toNat * Nat.pow 10 places
    let down := Nat.pow 2 (-p.exponent).toNat
    let n := divEven (p.significand * up) down
    let digits := padDigits n (places + 1)
    let body :=
      if places = 0 then digits
      else
        let k := digits.length - places
        String.ofList (digits.toList.take k) ++ "." ++ String.ofList (digits.toList.drop k)
    (if p.negative then "-" else "") ++ body

end Airspace.Decimal
