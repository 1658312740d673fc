import Airspace.Store.Syntax
import Airspace.Store.Token

/-!
# Operations on values

The engine's operators on stored values.

Literals are read by the engine's rules (`Store.Numeric`). A decimal integer
beyond the 64-bit range is read as a real, but a hexadecimal one is refused.
A minus sign directly before a literal is part of it, which is how
`-9223372036854775808` is an integer.

Arithmetic:

* a null operand makes the result null;
* a text or blob operand counts as an integer when it reads as one, and
  otherwise as the real its leading number reads as (zero when none);
* two integers give an integer while the result fits in 64 bits, and
  otherwise the operation is redone on reals; integer division truncates, and
  a zero divisor gives null;
* on reals the operation is one binary64 operation, a zero divisor gives null,
  and a NaN result is null; the remainder is always taken on integers.

Concatenation joins the operands' bytes, a real written in the engine's
fifteen-digit form. The bit operators take their operands as 64-bit integers.

Comparison orders null before numbers, numbers before texts, texts before
blobs; numbers by value, texts and blobs byte by byte. Before comparing, an
affinity may convert the operands: a numeric one turns a text that reads
wholly as a number into that number, a text one turns numbers into texts.
Null compares as unknown, except under `IS`. A value is true when its number
is not zero.
-/

namespace Airspace.Store

/-- The value of an integer literal, under a minus sign when `negative`: a
decimal literal that does not fit becomes a real, a hexadecimal one is an
error. -/
def integerLiteral (text : String) (negative : Bool) : Except String Cell :=
  let bs := bytesOf text
  let (v, fit) := readLiteralInteger bs
  let hex := text.startsWith "0x" || text.startsWith "0X"
  if (fit == .boundary && !negative) || fit == .overflow || (negative && v == smallestInt) then
    if hex then .error ("hex literal too big: " ++ (if negative then "-" else "") ++ text)
    else
      let x := (readReal bs).1
      .ok (.real (if negative then -x else x))
  else if negative then .ok (.integer (if fit == .boundary then smallestInt else -v))
  else .ok (.integer v)

/-- A value as an arithmetic operand: the integer it counts as, if it counts
as one; the real it counts as; and the integer it truncates to, which the
remainder of reals uses. -/
structure Operand where
  exact : Option Int
  real : Float
  truncated : Int

/-- A text or blob as an operand: an integer when the engine reads it as one, else its leading real. -/
def operandOfBytes (bs : List UInt8) : Operand :=
  let (x, kind) := readReal bs
  let (i, fit) := readInteger bs
  let isInteger : Bool := match kind with
    | .leading | .absent => kind == .absent && fit != .overflow && fit != .boundary
    | .integer => fit == .exact
    | .real => false
  ⟨if isInteger then some i else none, x, i⟩

/-- The operand a non-null value is. -/
def Cell.operand : Cell → Operand
  | .integer n => ⟨some n, Float.ofInt n, n⟩
  | .real x => ⟨none, x, realToInteger x⟩
  | .text bs => operandOfBytes bs
  | .blob bs => operandOfBytes bs
  | .null => ⟨some 0, 0, 0⟩

/-- Whether an integer is in the 64-bit range. -/
def fitsInteger (n : Int) : Bool := smallestInt ≤ n && n ≤ largestInt

/-- Integer arithmetic: `some` result (an integer or null), or `none` when the
operation must be redone on reals. -/
def integerArithmetic (op : BinaryOp) (a b : Int) : Option Cell :=
  let checked := fun (n : Int) => if fitsInteger n then some (Cell.integer n) else none
  match op with
  | .add => checked (a + b)
  | .subtract => checked (a - b)
  | .multiply => checked (a * b)
  | .divide =>
    if b = 0 then some .null
    else if b = -1 && a = smallestInt then none
    else some (.integer (a.tdiv b))
  | .remainder =>
    if b = 0 then some .null
    else some (.integer (a.tmod (if b = -1 then 1 else b)))
  | _ => none

/-- Real arithmetic; a zero divisor and a NaN result give null. -/
def realArithmetic (op : BinaryOp) (a b : Operand) : Cell :=
  let result : Option Float := match op with
    | .add => some (a.real + b.real)
    | .subtract => some (a.real - b.real)
    | .multiply => some (a.real * b.real)
    | .divide => if b.real == 0 then none else some (a.real / b.real)
    | _ =>
      let d := if b.truncated = -1 then 1 else b.truncated
      if d = 0 then none else some (Float.ofInt (a.truncated.tmod d))
  match result with
  | some x => if x.isNaN then .null else .real x
  | none => .null

/-- A value's bytes as text: an integer in decimal, a real in the engine's
fifteen-digit form, a text or blob as it is. -/
def Cell.textBytes : Cell → List UInt8
  | .integer n => bytesOf (toString n)
  | .real x => bytesOf (realText x)
  | .text s => s
  | .blob bs => bs
  | .null => []

/-- An arithmetic operator applied to two values. -/
def arithmetic (op : BinaryOp) (a b : Cell) : Cell :=
  match a, b with
  | .null, _ => .null
  | _, .null => .null
  | _, _ =>
    let x := a.operand
    let y := b.operand
    match x.exact, y.exact with
    | some i, some j => (integerArithmetic op i j).getD (realArithmetic op x y)
    | _, _ => realArithmetic op x y

/-- The concatenation of two values' texts. -/
def concatenate (a b : Cell) : Cell :=
  if a.isNull || b.isNull then .null else .text (a.textBytes ++ b.textBytes)

/-- The integer a value counts as: a real truncated into the range, a text
or blob its leading integer. -/
def Cell.intValue : Cell → Int
  | .integer n => n
  | .real x => realToInteger x
  | .text bs => (readInteger bs).1
  | .blob bs => (readInteger bs).1
  | .null => 0

/-- The real a value counts as: a text or blob the real its leading number reads as. -/
def Cell.realValue : Cell → Float
  | .integer n => Float.ofInt n
  | .real x => x
  | .text bs => (readReal bs).1
  | .blob bs => (readReal bs).1
  | .null => 0

/-- Two to the 64th. -/
def wordModulus : Nat := Nat.pow 2 64

/-- The 64 bits of an integer, as a natural number. -/
def wordOf (n : Int) : Nat := (n % (wordModulus : Int)).toNat

/-- The signed integer of 64 bits. -/
def signedOfWord (w : Nat) : Int :=
  let w := w % wordModulus
  if w ≥ Nat.pow 2 63 then (w : Int) - wordModulus else w

/-- A shift of 64-bit integers; a negative distance shifts the other way, and
64 places or more leave nothing but the sign on a right shift. -/
def shift (left : Bool) (a b : Int) : Int :=
  let (left, b) : Bool × Int := if b < 0 then (!left, if b > -64 then -b else 64) else (left, b)
  if b ≥ 64 then (if a ≥ 0 || left then 0 else -1)
  else if left then signedOfWord (Nat.shiftLeft (wordOf a) b.toNat)
  else if a ≥ 0 then signedOfWord (Nat.shiftRight (wordOf a) b.toNat)
  else -1 - signedOfWord (Nat.shiftRight (wordOf (-1 - a)) b.toNat)

/-- A bit operator applied to two values. -/
def bitwise (op : BinaryOp) (a b : Cell) : Cell :=
  if a.isNull || b.isNull then .null
  else
    let x := a.intValue
    let y := b.intValue
    match op with
    | .bitAnd => .integer (signedOfWord (wordOf x &&& wordOf y))
    | .bitOr => .integer (signedOfWord (wordOf x ||| wordOf y))
    | .shiftLeft => .integer (shift true x y)
    | _ => .integer (shift false x y)

/-- The order of a 64-bit integer and a real. -/
def compareIntReal (i : Int) (r : Float) : Ordering :=
  if r.isNaN then .gt
  else if r < -9223372036854775808.0 then .gt
  else if r ≥ 9223372036854775808.0 then .lt
  else
    let y := realToInteger r
    if i < y then .lt
    else if i > y then .gt
    else
      let s := Float.ofInt i
      if s < r then .lt else if s > r then .gt else .eq

/-- The order of two lists of bytes: byte by byte, then by length. -/
def compareBytes : List UInt8 → List UInt8 → Ordering
  | [], [] => .eq
  | [], _ :: _ => .lt
  | _ :: _, [] => .gt
  | a :: as, b :: bs => if a < b then .lt else if a > b then .gt else compareBytes as bs

/-- How two texts are ordered: byte by byte (`BINARY`), with the ASCII letters
of either case equal (`NOCASE`), or with trailing spaces left out (`RTRIM`). -/
inductive Collation where
  | binary
  | nocase
  | rtrim
  deriving DecidableEq, Repr

/-- The collation of a name, in any case. -/
def Collation.ofName? (name : String) : Option Collation :=
  match (bytesOf name).map lowerByte with
  | [0x62, 0x69, 0x6E, 0x61, 0x72, 0x79] => some .binary
  | [0x6E, 0x6F, 0x63, 0x61, 0x73, 0x65] => some .nocase
  | [0x72, 0x74, 0x72, 0x69, 0x6D] => some .rtrim
  | _ => none

/-- The order of two texts under a collation. -/
def Collation.compareTexts (c : Collation) (a b : List UInt8) : Ordering :=
  match c with
  | .binary => compareBytes a b
  | .nocase => compareBytes (a.map lowerByte) (b.map lowerByte)
  | .rtrim => compareBytes (a.reverse.dropWhile (· == 0x20)).reverse (b.reverse.dropWhile (· == 0x20)).reverse

/-- The engine's order of two values. -/
def Cell.compare : Cell → Cell → Ordering
  | .null, .null => .eq
  | .null, _ => .lt
  | _, .null => .gt
  | .integer a, .integer b => Ord.compare a b
  | .integer a, .real y => compareIntReal a y
  | .real x, .integer b => (compareIntReal b x).swap
  | .real x, .real y => if x < y then .lt else if x > y then .gt else .eq
  | .integer _, _ => .lt
  | .real _, _ => .lt
  | .text _, .integer _ => .gt
  | .text _, .real _ => .gt
  | .text a, .text b => compareBytes a b
  | .text _, .blob _ => .lt
  | .blob a, .blob b => compareBytes a b
  | .blob _, _ => .gt

/-- The order of two values with texts compared under a collation. -/
def Cell.compareWith (coll : Collation) (a b : Cell) : Ordering :=
  match a, b with
  | .text x, .text y => coll.compareTexts x y
  | _, _ => a.compare b

/-- Whether an affinity is numeric. -/
def Affinity.isNumeric : Affinity → Bool
  | .integer | .real | .numeric => true
  | _ => false

/-- The affinity under which two operands are compared, from their own: two
columns compare numerically if either is numeric and otherwise as they are; a
column and another operand under the column's affinity. -/
def comparisonAffinity : Option Affinity → Option Affinity → Option Affinity
  | some a, some b => if a.isNumeric || b.isNumeric then some .numeric else some .blob
  | some a, none => some a
  | none, b => b

/-- A value prepared for comparison under an affinity. -/
def Cell.forComparison (aff : Option Affinity) (c : Cell) : Cell :=
  match aff, c with
  | some a, .text bs => if a.isNumeric then (numericOfText bs).getD c else c
  | some .text, .integer _ => .text c.textBytes
  | some .text, .real _ => .text c.textBytes
  | _, _ => c

/-- Two values compared under an affinity and a collation. -/
def compareUnder (aff : Option Affinity) (coll : Collation) (a b : Cell) : Ordering :=
  (a.forComparison aff).compareWith coll (b.forComparison aff)

/-- A truth value as a value. -/
def ofBool (b : Bool) : Cell := .integer (if b then 1 else 0)

/-- A comparison operator applied to two values under an affinity and a collation. -/
def comparison (op : BinaryOp) (aff : Option Affinity) (coll : Collation) (a b : Cell) : Cell :=
  match op with
  | .is => ofBool (if a.isNull || b.isNull then a.isNull && b.isNull else compareUnder aff coll a b == .eq)
  | .isNot => ofBool (if a.isNull || b.isNull then !(a.isNull && b.isNull) else compareUnder aff coll a b != .eq)
  | _ =>
    if a.isNull || b.isNull then .null
    else
      let o := compareUnder aff coll a b
      ofBool <| match op with
        | .eq => o == .eq
        | .ne => o != .eq
        | .lt => o == .lt
        | .le => o != .gt
        | .gt => o == .gt
        | _ => o != .lt

/-- Whether a value is true; null is neither true nor false. -/
def Cell.truth : Cell → Option Bool
  | .null => none
  | .integer n => some (n != 0)
  | c => some (c.realValue != 0)

/-- A truth value or null as a value. -/
def ofTruth : Option Bool → Cell
  | some b => ofBool b
  | none => .null

/-- `AND` of two truth values, false winning over null. -/
def both (a b : Option Bool) : Option Bool :=
  match a, b with
  | some false, _ => some false
  | _, some false => some false
  | some true, some true => some true
  | _, _ => none

/-- `OR` of two truth values, true winning over null. -/
def either (a b : Option Bool) : Option Bool :=
  match a, b with
  | some true, _ => some true
  | _, some true => some true
  | some false, some false => some false
  | _, _ => none

/-- Whether some characters occur, one after another, in a text's characters. -/
def occursIn (needle : List Char) : List Char → Bool
  | [] => needle.isEmpty
  | c :: rest => needle.isPrefixOf (c :: rest) || occursIn needle rest

/-- The affinity of a declared type: `INT` makes it integer; else `CHAR`,
`CLOB` or `TEXT` text; else `BLOB` or no type none; else `REAL`, `FLOA` or
`DOUB` real; else numeric. -/
def affinityOfType (type : String) : Affinity :=
  let t := upperAscii type
  let has := fun (s : String) => occursIn s.toList t.toList
  if has "INT" then .integer
  else if has "CHAR" || has "CLOB" || has "TEXT" then .text
  else if has "BLOB" || t.isEmpty then .blob
  else if has "REAL" || has "FLOA" || has "DOUB" then .real
  else .numeric

/-- A value converted by `CAST` to a type's affinity. -/
def castTo (a : Affinity) (c : Cell) : Cell :=
  match a, c with
  | _, .null => .null
  | .blob, .blob bs => .blob bs
  | .blob, c => .blob c.textBytes
  | .text, c => .text c.textBytes
  | .integer, c => .integer c.intValue
  | .real, c => .real c.realValue
  | .numeric, .text bs => numerify bs
  | .numeric, .blob bs => numerify bs
  | .numeric, c => c
where
  /-- A text made a number: an integer when it reads as one (or as nothing),
  a real that is an integer as that integer, otherwise the real. -/
  numerify (bs : List UInt8) : Cell :=
    let (x, kind) := readReal bs
    let (i, fit) := readInteger bs
    if (kind == .absent || kind == .integer) && (fit == .exact || fit == .trailing || fit == .empty) then .integer i
    else
      let j := realToInteger x
      if realSameAsInteger x j then .integer j else .real x

end Airspace.Store
