import Airspace.Store.Value

/-!
# Format strings

The engine's `printf` (also called `format`) writes its arguments into a
format string. Bytes other than `%` are copied; each `%` starts a conversion:

* **Flags** `-` (left-justify), `+` and space (the mark before a value that is
  not negative), `#` (alternate form), `!` (wide form: characters rather than
  bytes, more exact digits), `0` (pad with zeros) and `,` (group by threes),
  then a width, then a precision after a point. A width or precision of `*`
  takes the next argument as a 32-bit integer; a negative width left-justifies.
  Size letters `l` and `ll` are read and ignored.
* **Conversions** `d i u` (decimal), `o x X p` (octal and hexadecimal of the
  64-bit word), `r` (ordinal), `f e E g G` (reals), `s z` (text), `c`
  (a character repeated precision times), `q Q w` (text with quotes doubled,
  `Q` enclosing it in quotes and writing a missing value as `NULL`), `n`
  (nothing) and `%`.
* **Arguments** are taken in turn; a missing one reads as `0`, `0.0` or no
  text.
* A conversion that is not one of these, or a format that ends inside one,
  ends the output there; a `%` that ends the format is written as it is.
* An output of a thousand million bytes or more is no text at all.
-/

namespace Airspace.Store

/-- The flags, field width and precision of one conversion. -/
structure Conversion where
  leftJustify : Bool := false
  plusMark : Option Char := none
  alternate : Bool := false
  wide : Bool := false
  zeroPad : Bool := false
  grouped : Bool := false
  width : Nat := 0
  precision : Option Nat := none

/-- The longest output the engine builds. -/
def outputLimit : Nat := 1000000000

/-- A 64-bit integer cut to its low 32 bits, read as signed. -/
def int32Of (n : Int) : Int :=
  let m := n % 4294967296
  if m ≥ 2147483648 then m - 4294967296 else m

/-- The next argument as an integer, and the arguments after it. -/
def nextInteger : List Cell → Int × List Cell
  | [] => (0, [])
  | c :: rest => (c.intValue, rest)

/-- The next argument as a real, and the arguments after it. -/
def nextReal : List Cell → Float × List Cell
  | [] => (0, [])
  | c :: rest => (c.realValue, rest)

/-- The next argument as text up to its first NUL byte, none for a missing
or null argument, and the arguments after it. -/
def nextText : List Cell → Option (List UInt8) × List Cell
  | [] => (none, [])
  | .null :: rest => (none, rest)
  | c :: rest => (some (beforeNul c.textBytes), rest)

/-- The value of a run of decimal digits, kept to 32 bits and then to 31. -/
def countValue (ds : List UInt8) : Nat :=
  ds.foldl (fun n d => (n * 10 + digitValue d) % 4294967296) 0 % 2147483648

/-- A width or precision taken from an argument: its 32-bit value, with the
sign split off, and the smallest 32-bit integer read as no amount. -/
def countArgument (v : Int) : Bool × Option Nat :=
  let v := int32Of v
  if v < 0 then (true, if v ≥ -2147483647 then some v.natAbs else none)
  else (false, some v.toNat)

/-- Whether the format goes on with a precision or a size letter. -/
def continuesSpec : List UInt8 → Bool
  | 0x2E :: _ | 0x6C :: _ => true
  | _ => false

/-- Read the flags, width and precision of a conversion; what is left starts
with the conversion letter, or is empty when the format ends first. -/
def readConversion : Nat → Conversion → List UInt8 → List Cell →
    Conversion × List UInt8 × List Cell
  | 0, c, fmt, args => (c, fmt, args)
  | fuel + 1, c, fmt, args =>
    match fmt with
    | [] => (c, [], args)
    | b :: rest =>
      if b == 0x2D then readConversion fuel { c with leftJustify := true } rest args
      else if b == 0x2B then readConversion fuel { c with plusMark := some '+' } rest args
      else if b == 0x20 then readConversion fuel { c with plusMark := some ' ' } rest args
      else if b == 0x23 then readConversion fuel { c with alternate := true } rest args
      else if b == 0x21 then readConversion fuel { c with wide := true } rest args
      else if b == 0x30 then readConversion fuel { c with zeroPad := true } rest args
      else if b == 0x2C then readConversion fuel { c with grouped := true } rest args
      else if b == 0x6C then
        match rest with
        | 0x6C :: more => (c, more, args)
        | _ => (c, rest, args)
      else if 0x31 ≤ b && b ≤ 0x39 then
        let ds := fmt.takeWhile isDigit
        let after := fmt.drop ds.length
        let c := { c with width := countValue ds }
        if continuesSpec after then readConversion fuel c after args else (c, after, args)
      else if b == 0x2A then
        let (v, args) := nextInteger args
        let (negative, w) := countArgument v
        let c := { c with leftJustify := c.leftJustify || negative, width := w.getD 0 }
        if continuesSpec rest then readConversion fuel c rest args else (c, rest, args)
      else if b == 0x2E then
        let (c, after, args) := match rest with
          | 0x2A :: more =>
            let (v, args) := nextInteger args
            ({ c with precision := (countArgument v).2 }, more, args)
          | _ =>
            let ds := rest.takeWhile isDigit
            ({ c with precision := some (countValue ds) }, rest.drop ds.length, args)
        match after with
        | 0x6C :: _ => readConversion fuel c after args
        | _ => (c, after, args)
      else (c, fmt, args)

/-- What a conversion gives: its bytes and the arguments left, the end of the
output, or an output too long to build. -/
inductive Piece where
  | bytes (out : List UInt8) (args : List Cell)
  | stop
  | tooLong

/-- The number of UTF-8 continuation bytes in a text. -/
def continuationCount (bs : List UInt8) : Nat :=
  (bs.filter (fun b => b &&& 0xC0 == 0x80)).length

/-- A text padded with spaces to a field width, on the right when
left-justified; in the wide form the width counts characters. -/
def padField (leftJustify adjust : Bool) (width : Int) (body : List UInt8) : List UInt8 :=
  let width := if adjust && width > 0 then width + continuationCount body else width
  let pad := width - body.length
  if pad > 0 then
    let spaces := List.replicate pad.toNat 0x20
    if leftJustify then body ++ spaces else spaces ++ body
  else body

/-- The first `n` characters of a UTF-8 text: a lead byte takes the
continuation bytes after it. -/
def leadingChars : Nat → List UInt8 → List UInt8
  | 0, _ => []
  | _, [] => []
  | n + 1, b :: rest =>
    if b ≥ 0xC0 then
      let tail := rest.takeWhile (fun x => x &&& 0xC0 == 0x80)
      b :: tail ++ leadingChars n (rest.drop tail.length)
    else b :: leadingChars n rest

/-- The integer conversions. -/
inductive IntegerStyle where
  | signedDecimal
  | unsignedDecimal
  | octal
  | lowerHex
  | upperHex
  | pointer
  | ordinal
  deriving DecidableEq

/-- Whether a style reads its argument as signed. -/
def IntegerStyle.signed : IntegerStyle → Bool
  | .signedDecimal | .ordinal => true
  | _ => false

/-- The base of a style. -/
def IntegerStyle.base : IntegerStyle → Nat
  | .octal => 8
  | .lowerHex | .upperHex | .pointer => 16
  | _ => 10

/-- What the alternate form puts before a nonzero value. -/
def IntegerStyle.alternateLead : IntegerStyle → String
  | .octal => "0"
  | .lowerHex | .pointer => "0x"
  | .upperHex => "0X"
  | _ => ""

/-- Whether a style groups its digits when asked. -/
def IntegerStyle.groups : IntegerStyle → Bool
  | .signedDecimal | .unsignedDecimal => true
  | _ => false

/-- The suffix of an ordinal: `st`, `nd`, `rd`, or `th` for the teens and
for every other last digit. -/
def ordinalSuffix (n : Nat) : String :=
  if (n / 10) % 10 = 1 then "th"
  else match n % 10 with
    | 1 => "st"
    | 2 => "nd"
    | 3 => "rd"
    | _ => "th"

/-- An integer conversion of the next argument. -/
def integerPiece (c : Conversion) (style : IntegerStyle) (args : List Cell) : Piece :=
  let (v, args) := nextInteger args
  let (n, mark) : Nat × Option Char :=
    if style.signed then (if v < 0 then (v.natAbs, some '-') else (v.toNat, c.plusMark))
    else (wordOf v, none)
  let markLength : Int := if mark.isSome then 1 else 0
  let precision : Int := match c.precision with
    | some p => p
    | none => -1
  let precision := if c.zeroPad && precision < c.width - markLength then c.width - markLength else precision
  let grouped := c.grouped && style.groups
  let workspace := precision + 10 + (if grouped then precision / 3 else 0)
  if precision ≥ 37 && workspace > outputLimit then .tooLong
  else
    let digits := Nat.toDigits style.base n
    let digits := if style == .upperHex || style == .pointer then digits.map Char.toUpper else digits
    let suffix := if style == .ordinal then (ordinalSuffix n).toList else []
    let zeros := (precision - (digits.length + suffix.length : Nat)).toNat
    let digits := List.replicate zeros '0' ++ digits
    let digits := if grouped then groupedWhole digits.length digits else digits
    let lead := if c.alternate && n ≠ 0 then style.alternateLead.toList else []
    let markText := match mark with
      | some m => [m]
      | none => []
    .bytes (padField c.leftJustify false c.width (bytesOf (String.ofList (lead ++ markText ++ digits ++ suffix)))) args

/-- A real conversion of the next argument: zeros for padding go after the
sign, but never into `NaN` or `Inf`. -/
def realPiece (c : Conversion) (style : RealStyle) (letter : Char) (args : List Cell) : Piece :=
  let (v, args) := nextReal args
  let precision := c.precision.getD 6
  if precision + c.width + 15 > outputLimit then .tooLong
  else
    let text := RealFormat.render
      { style, precision, wide := c.wide, alternate := c.alternate, plusMark := c.plusMark,
        grouped := c.grouped, exponentLetter := letter } v
    let body := bytesOf text
    let body :=
      if c.zeroPad && !c.leftJustify && body.length < c.width && !v.isNaN && !v.isInf then
        let markLength := if v < 0 || c.plusMark.isSome then 1 else 0
        body.take markLength ++ List.replicate (c.width - body.length) 0x30 ++ body.drop markLength
      else body
    .bytes (padField c.leftJustify false c.width body) args

/-- A text conversion: the precision counts bytes, or characters in the wide
form. -/
def textPiece (c : Conversion) (args : List Cell) : Piece :=
  let (t, args) := nextText args
  let t := t.getD []
  let body := match c.precision with
    | some p => if c.wide then leadingChars p t else t.take p
    | none => t
  .bytes (padField c.leftJustify c.wide c.width body) args

/-- A character conversion: the first character of the next argument (a NUL
byte for empty or missing text), written precision times. -/
def charPiece (c : Conversion) (args : List Cell) : Piece :=
  let (t, args) := nextText args
  let ch : List UInt8 := match t with
    | some (b :: rest) =>
      if b &&& 0xC0 == 0xC0 then b :: (rest.takeWhile (fun x => x &&& 0xC0 == 0x80)).take 3
      else [b]
    | _ => [0]
  match c.precision with
  | some p =>
    if p > 1 then
      let width : Int := c.width - (p - 1)
      let (spaces, width) : List UInt8 × Int :=
        if width > 1 && !c.leftJustify then (List.replicate (width - 1).toNat 0x20, 0) else ([], width)
      .bytes (spaces ++ (List.replicate (p - 1) ch).flatten ++ padField c.leftJustify true width ch) args
    else .bytes (padField c.leftJustify true c.width ch) args
  | none => .bytes (padField c.leftJustify true c.width ch) args

/-- A quoting conversion: the precision limits the bytes (or characters)
taken, and each quote among them is doubled; `enclose` writes the text
between quotes and a missing value as `NULL`. -/
def quotedPiece (c : Conversion) (quote : UInt8) (enclose : Bool) (args : List Cell) : Piece :=
  let (t, args) := nextText args
  let source := t.getD (bytesOf (if enclose then "NULL" else "(NULL)"))
  let taken := match c.precision with
    | some p => if c.wide then leadingChars p source else source.take p
    | none => source
  let escaped := taken.flatMap (fun b => if b == quote then [b, b] else [b])
  let body := if enclose && t.isSome then quote :: escaped ++ [quote] else escaped
  .bytes (padField c.leftJustify c.wide c.width body) args

/-- The piece of a conversion letter. -/
def convert (c : Conversion) (letter : UInt8) (args : List Cell) : Piece :=
  match letter with
  | 0x64 | 0x69 => integerPiece c .signedDecimal args
  | 0x75 => integerPiece c .unsignedDecimal args
  | 0x6F => integerPiece c .octal args
  | 0x78 => integerPiece c .lowerHex args
  | 0x58 => integerPiece c .upperHex args
  | 0x70 => integerPiece c .pointer args
  | 0x72 => integerPiece c .ordinal args
  | 0x66 => realPiece c .fixed 'e' args
  | 0x65 => realPiece c .exponent 'e' args
  | 0x45 => realPiece c .exponent 'E' args
  | 0x67 => realPiece c .significant 'e' args
  | 0x47 => realPiece c .significant 'E' args
  | 0x73 | 0x7A => textPiece c args
  | 0x63 => charPiece { c with wide := true } args
  | 0x71 => quotedPiece c 0x27 false args
  | 0x51 => quotedPiece c 0x27 true args
  | 0x77 => quotedPiece c 0x22 false args
  | 0x6E => .bytes [] args
  | 0x25 => .bytes (padField c.leftJustify false c.width [0x25]) args
  | _ => .stop

/-- Write the rest of a format after the output so far; none when the output
grows too long. -/
def formatFrom : Nat → List UInt8 → List Cell → List UInt8 → Option (List UInt8)
  | 0, _, _, out => some out
  | fuel + 1, fmt, args, out =>
    match fmt with
    | [] => some out
    | 0x25 :: rest =>
      if rest.isEmpty then some (out ++ [0x25])
      else
        let (c, after, args) := readConversion (rest.length + 1) {} rest args
        match after with
        | [] => some out
        | letter :: more =>
          match convert c letter args with
          | .stop => some out
          | .tooLong => none
          | .bytes piece args =>
            if out.length + piece.length ≥ outputLimit then none
            else formatFrom fuel more args (out ++ piece)
    | _ =>
      let literal := fmt.takeWhile (· != 0x25)
      formatFrom fuel (fmt.drop literal.length) args (out ++ literal)

/-- The text of a format (up to its first NUL byte) with its arguments
written in; none when it would be too long. -/
def formatText (fmt : List UInt8) (args : List Cell) : Option (List UInt8) :=
  let fmt := beforeNul fmt
  formatFrom (fmt.length + 1) fmt args []

/-- The SQL function: no arguments or a null format give null, as does an
output too long to build. -/
def formatFunction : List Cell → Cell
  | [] => .null
  | .null :: _ => .null
  | f :: args => match formatText f.textBytes args with
    | some bs => .text bs
    | none => .null

end Airspace.Store
