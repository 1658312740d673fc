import Airspace.Store.Numeric
import Airspace.Decimal.Parse
import Airspace.Decimal.Notation
import Airspace.Text.Quoted
import Airspace.Text.Utf8

/-!
# Stored values

A stored value is null, an integer, a binary64 number, a text or a blob. A
column has an affinity that decides how a value written to it is kept, by the
engine's own number rules (`Store.Numeric`):

* a real or an integer column turns a text that the engine reads wholly as a
  number into that number: an integer when the text is one and the value is
  exact, otherwise a real. A real column keeps every number as binary64 (NaN
  is never stored, and a zero loses its sign); an integer column keeps a real
  that is exactly an integer strictly inside the 64-bit range as that integer.
* a numeric column (as a date column is) keeps values as an integer column does.
* a text column keeps numbers as their text: an integer in decimal, a real in
  the engine's fifteen-digit form.
* a column without affinity keeps every value as it is; blobs and nulls are
  kept as they are by every column.

A text is kept as its bytes, which need not be well-formed UTF-8: a blob
concatenated to a text gives a text of the blob's bytes.

Reading a value back as a field's type follows the client library: null gives
the field's zero; a number of a numeric field is taken as it is; otherwise the
value's text (a real's shortest text, a blob's bytes) is read with the
standard parsers, and a failure names the column, the value, the type wanted
and why.
-/

namespace Airspace.Store

/-- A stored value. -/
inductive Cell where
  | null
  | integer (n : Int)
  | real (x : Float)
  | text (bytes : List UInt8)
  | blob (bytes : List UInt8)

/-- How a column keeps the values written to it. -/
inductive Affinity where
  | integer
  | real
  | numeric
  | text
  | blob
  deriving DecidableEq, Repr

/-- How the client library writes a real as text: shortest digits, positional
for decimal exponents `-4 … 5`. -/
def clientRealText : Decimal.Notation := ⟨-4, 5, 2, "NaN", "+Inf", "-Inf"⟩

/-- Whether a value is null. -/
def Cell.isNull : Cell → Bool
  | .null => true
  | _ => false

/-- A number as a real column keeps it. -/
def Cell.ofReal (x : Float) : Cell :=
  if x.isNaN then .null else if x == 0 then .real 0 else .real x

/-- A real as an integer column keeps it: as an integer when it is exactly one
strictly inside the 64-bit range. -/
def integralCell (x : Float) : Cell :=
  let i := realToInteger x
  if x == Float.ofInt i && smallestInt < i && i < largestInt then .integer i else .real x

/-- The number a text becomes in a numeric column, if the engine reads the whole
text as a number: an integer when the text is an integer whose value is exact,
otherwise the real it reads. -/
def numericOfText (bs : List UInt8) : Option Cell :=
  match readReal bs with
  | (x, .integer) =>
    let i := realToInteger x
    if realSameAsInteger x i then some (.integer i)
    else match readInteger bs with
      | (j, .exact) => some (.integer j)
      | _ => some (.real x)
  | (x, .real) => some (.real x)
  | _ => none

/-- A value as a column of an affinity keeps it. -/
def Cell.keep (a : Affinity) (c : Cell) : Cell :=
  match a, c with
  | .real, .real x => Cell.ofReal x
  | .real, .integer n => .real (Float.ofInt n)
  | .real, .text s => match numericOfText s with
    | some (.integer n) => .real (Float.ofInt n)
    | some (.real x) => Cell.ofReal x
    | _ => .text s
  | .integer, .real x | .numeric, .real x => if x.isNaN then .null else integralCell x
  | .integer, .text s | .numeric, .text s => match numericOfText s with
    | some (.real x) => integralCell x
    | some n => n
    | none => .text s
  | .text, .integer n => .text (bytesOf (toString n))
  | .text, .real x => .text (bytesOf (realText x))
  | _, c => c

/-- The kind of a value and its bytes, as the client library hands it to a field. -/
def Cell.handed : Cell → String × List UInt8
  | .null => ("<nil>", bytesOf "<nil>")
  | .integer n => ("int64", bytesOf (toString n))
  | .real x => ("float64", bytesOf (clientRealText.render x))
  | .text s => ("string", s)
  | .blob bs => ("[]uint8", bs)

/-- A value that could not be read as the type of its field. -/
structure ScanError where
  column : Nat
  name : String
  value : Cell
  target : String
  fault : Decimal.ReadFault

/-- The text of a read failure. -/
def ScanError.message (e : ScanError) : String :=
  let (kind, bytes) := e.value.handed
  "sql: Scan error on column index " ++ toString e.column ++ ", name " ++ Text.quoteText e.name ++
    ": converting driver.Value type " ++ kind ++ " (" ++ Text.quoteBytes bytes ++ ") to a " ++ e.target ++
    ": " ++ e.fault.reason

/-- A column: its place in the row and its name. -/
structure Column where
  index : Nat
  name : String

/-- The text of a value's bytes, as the standard parsers read it. -/
def Cell.handedText (c : Cell) : String := Text.toText c.handed.2

/-- Reads a value as binary64. -/
def Cell.readFloat (col : Column) : Cell → Except ScanError Float
  | .null => .ok 0
  | .integer n => .ok (Float.ofInt n)
  | .real x => .ok x
  | c => (Decimal.parseFloat c.handedText).mapError fun f => ⟨col.index, col.name, c, "float64", f⟩

/-- Reads a value as a signed 64-bit integer. -/
def Cell.readInt (col : Column) : Cell → Except ScanError Int
  | .null => .ok 0
  | .integer n => .ok n
  | c => (Decimal.parseInteger c.handedText).mapError fun f => ⟨col.index, col.name, c, "int", f⟩

/-- Reads a value as an unsigned 64-bit integer. -/
def Cell.readNat (col : Column) : Cell → Except ScanError Nat
  | .null => .ok 0
  | c => (Decimal.parseUnsigned c.handedText).mapError fun f => ⟨col.index, col.name, c, "uint", f⟩

/-- Reads a value as text. -/
def Cell.readText : Cell → String
  | .null => ""
  | c => c.handedText

/-- Reads a value as the bytes of a text. -/
def Cell.readBytes : Cell → List UInt8
  | .null => []
  | c => c.handed.2

/-- The order of stored values: null, then numbers by value, then texts, then blobs. -/
def Cell.before : Cell → Cell → Bool
  | .null, .null => false
  | .null, _ => true
  | _, .null => false
  | .blob a, .blob b => decide (a.map UInt8.toNat < b.map UInt8.toNat)
  | .blob _, _ => false
  | _, .blob _ => true
  | .text a, .text b => decide (a.map UInt8.toNat < b.map UInt8.toNat)
  | .text _, _ => false
  | _, .text _ => true
  | .integer a, .integer b => decide (a < b)
  | .integer a, .real y => Float.ofInt a < y
  | .real x, .integer b => x < Float.ofInt b
  | .real x, .real y => x < y

end Airspace.Store
