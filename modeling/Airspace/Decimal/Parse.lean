import Airspace.Decimal.Read

/-!
# Reading numbers by the standard library's rules

The client library turns a stored text into a field's number with the standard
parsers, and these accept more than JSON does:

* a float is an optional sign and then `inf`, `infinity` (in any case) or,
  without a sign, `nan`; or a decimal mantissa with an optional point and
  exponent `e±d`; or `0x` and a hexadecimal mantissa, which must have a binary
  exponent `p±d`. Underscores may stand between digits, or between `0x` and a
  digit. The value is the nearest binary64 number, ties to even; a value beyond
  the finite range is out of range. Exponent digits stop counting at a value of
  10000, which is far past either end of the range.
* an integer is an optional sign and decimal digits, in the range of 64-bit
  integers (unsigned: digits only, below `2^64`). Reading stops at the first
  fault from the left, so a text that overflows before a bad character is out
  of range rather than malformed.

Nothing around the number is skipped: a space makes the text malformed.
-/

namespace Airspace.Decimal

/-- Why a text is not a number of the kind wanted. -/
inductive ReadFault where
  | malformed
  | outOfRange
  deriving DecidableEq, Repr

/-- The reason as the parsers' errors word it. -/
def ReadFault.reason : ReadFault → String
  | .malformed => "invalid syntax"
  | .outOfRange => "value out of range"

/-- An ASCII letter in lower case; other characters unchanged. -/
def asciiLower (c : Char) : Char :=
  if 'A' ≤ c && c ≤ 'Z' then Char.ofNat (c.toNat + 32) else c

/-- The length of the common beginning of a text and a lower-case word, ignoring ASCII case. -/
def commonFoldLength : List Char → List Char → Nat
  | c :: cs, w :: ws => if asciiLower c == w then commonFoldLength cs ws + 1 else 0
  | _, _ => 0

/-- The special values: a signed or unsigned infinity, or an unsigned NaN,
making up the whole text. A text longer than `inf` but not `infinity` is not
one. -/
def readSpecial? (cs : List Char) : Option Float :=
  let (negative, signed, body) : Bool × Bool × List Char := match cs with
    | '-' :: r => (true, true, r)
    | '+' :: r => (false, true, r)
    | r => (false, false, r)
  let n := commonFoldLength body "infinity".toList
  let n := if 3 < n && n < 8 then 3 else n
  if (n == 3 || n == 8) && body.length == n then
    some (if negative then -Binary64.inf else Binary64.inf)
  else if !signed && body.length == 3 && commonFoldLength body "nan".toList == 3 then
    some Binary64.nan
  else none

/-- The value of a digit in base 10 or 16. -/
def digitIn (hex : Bool) (c : Char) : Option Nat :=
  if c.isDigit then some (c.toNat - 0x30)
  else if hex && 'a' ≤ asciiLower c && asciiLower c ≤ 'f' then some ((asciiLower c).toNat - 0x61 + 10)
  else none

/-- A mantissa read so far: the value of its significant digits (leading zeros
are not counted), how many there are, the number of them before the point
(negative while only zeros after the point have been seen), and what was seen. -/
structure Mantissa where
  value : Nat := 0
  count : Nat := 0
  point : Int := 0
  sawDot : Bool := false
  sawDigits : Bool := false
  underscores : Bool := false

/-- Takes one more character into a mantissa; `none` when the character ends it. -/
def Mantissa.step? (hex : Bool) (m : Mantissa) (c : Char) : Option Mantissa :=
  if c == '_' then some { m with underscores := true }
  else if c == '.' then
    if m.sawDot then none else some { m with sawDot := true, point := m.count }
  else match digitIn hex c with
    | some 0 =>
      if m.count == 0 then some { m with sawDigits := true, point := m.point - 1 }
      else some { m with sawDigits := true, count := m.count + 1, value := (if hex then 16 else 10) * m.value }
    | some d =>
      some { m with sawDigits := true, count := m.count + 1, value := (if hex then 16 else 10) * m.value + d }
    | none => none

/-- Reads a mantissa as far as it goes; also the rest of the text. -/
def readMantissa (hex : Bool) : Mantissa → List Char → Mantissa × List Char
  | m, [] => (m, [])
  | m, c :: rest =>
    match m.step? hex c with
    | some m' => readMantissa hex m' rest
    | none => (m, c :: rest)

/-- Exponent digits and underscores; the value stops growing once it reaches 10000. -/
def exponentDigits : Nat → Bool → List Char → Nat × Bool × List Char
  | e, u, [] => (e, u, [])
  | e, u, c :: rest =>
    if c == '_' then exponentDigits e true rest
    else if c.isDigit then exponentDigits (if e < 10000 then 10 * e + (c.toNat - 0x30) else e) u rest
    else (e, u, c :: rest)

/-- A signed exponent after its letter: it must start with a digit after the sign. -/
def readSignedExponent (cs : List Char) : Option (Int × Bool × List Char) :=
  let (negative, cs) : Bool × List Char := match cs with
    | '+' :: r => (false, r)
    | '-' :: r => (true, r)
    | r => (false, r)
  match cs with
  | c :: _ =>
    if c.isDigit then
      let (e, u, rest) := exponentDigits 0 false cs
      some (if negative then -(e : Int) else e, u, rest)
    else none
  | [] => none

/-- Whether every underscore of a number stands between two digits, or between
a base mark and a digit. -/
def underscoresAllowed (cs : List Char) : Bool :=
  let cs := match cs with
    | '-' :: r => r
    | '+' :: r => r
    | r => r
  let (hex, start, body) : Bool × Char × List Char := match cs with
    | '0' :: b :: r =>
      if asciiLower b == 'b' || asciiLower b == 'o' || asciiLower b == 'x' then (asciiLower b == 'x', '0', r)
      else (false, '^', cs)
    | _ => (false, '^', cs)
  -- the class of the last character: `0` a digit, `_` an underscore, `!` other;
  -- `none` once an underscore is misplaced
  let step := fun (saw : Option Char) (c : Char) =>
    match saw with
    | none => none
    | some s =>
      if (digitIn hex c).isSome then some '0'
      else if c == '_' then (if s == '0' then some '_' else none)
      else if s == '_' then none
      else some '!'
  match body.foldl step (some start) with
  | some s => s != '_'
  | none => false

/-- Reads a float by the standard parser's rules. -/
def parseFloat (s : String) : Except ReadFault Float :=
  let cs := s.toList
  match readSpecial? cs with
  | some x => .ok x
  | none =>
    let (negative, body) : Bool × List Char := match cs with
      | '+' :: r => (false, r)
      | '-' :: r => (true, r)
      | r => (false, r)
    let (hex, body) : Bool × List Char := match body with
      | '0' :: x :: r@(_ :: _) => if asciiLower x == 'x' then (true, r) else (false, body)
      | _ => (false, body)
    let (m, rest) := readMantissa hex {} body
    if !m.sawDigits then .error .malformed
    else
      let point : Int := if m.sawDot then m.point else m.count
      let mark := if hex then 'p' else 'e'
      let exponent : Option (Int × Bool × List Char) := match rest with
        | c :: r => if asciiLower c == mark then readSignedExponent r else if hex then none else some (0, false, rest)
        | [] => if hex then none else some (0, false, [])
      match exponent with
      | none => .error .malformed
      | some (e, u, tail) =>
        if !tail.isEmpty then .error .malformed
        else if (m.underscores || u) && !underscoresAllowed cs then .error .malformed
        else
          let x :=
            if hex then Binary64.ofParts ⟨negative, m.value, 4 * point + e - 4 * (m.count : Int)⟩
            else Literal.toFloat ⟨negative, m.value, point + e - m.count⟩
          if x.isInf then .error .outOfRange else .ok x

/-- Reads decimal digits onto `n`, failing at the first non-digit or once the value reaches `2^64`. -/
def readUnsigned : Nat → List Char → Except ReadFault Nat
  | n, [] => .ok n
  | n, c :: rest =>
    if !c.isDigit then .error .malformed
    else
      let n' := 10 * n + (c.toNat - 0x30)
      if n' ≥ Nat.pow 2 64 then .error .outOfRange else readUnsigned n' rest

/-- Reads an unsigned 64-bit integer in decimal. -/
def parseUnsigned (s : String) : Except ReadFault Nat :=
  if s.isEmpty then .error .malformed else readUnsigned 0 s.toList

/-- Reads a signed 64-bit integer in decimal: a sign, then the digits of its magnitude. -/
def parseInteger (s : String) : Except ReadFault Int :=
  let (negative, body) : Bool × List Char := match s.toList with
    | '+' :: r => (false, r)
    | '-' :: r => (true, r)
    | r => (false, r)
  if s.isEmpty || body.isEmpty then .error .malformed
  else match readUnsigned 0 body with
    | .error .malformed => .error .malformed
    | .error .outOfRange => .error .outOfRange
    | .ok n =>
      if !negative && n ≥ Nat.pow 2 63 then .error .outOfRange
      else if negative && n > Nat.pow 2 63 then .error .outOfRange
      else .ok (if negative then -(n : Int) else n)

end Airspace.Decimal
