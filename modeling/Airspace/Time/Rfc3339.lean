import Airspace.Time.Instant

/-!
# RFC 3339 timestamps: reading and writing

Timestamps are read by a layout, a sequence of literal pieces and fields:
`2006-01-02T15:04:05Z07:00`, optionally with the fraction `.999999999` after
the seconds. The reader is byte-oriented and follows the layout piece by piece:

* the year takes exactly four digits,
* month, day, minute and second take exactly two digits, the hour one or two,
* a fraction `.ddd…` or `,ddd…` may follow the seconds whatever the layout
  says; digits after the ninth are ignored,
* the zone is `Z` or `±hh:mm`, with hours up to 24 and minutes up to 60.

A failure names the piece of the layout and the rest of the text where it
happened, or, for a field out of range, the field; the texts are quoted with
non-ASCII and control bytes written as `\xNN`.

Writing gives `YYYY-MM-DDThh:mm:ss`, the fraction without trailing zeros (none
at all when zero), and `Z` for offset zero, else `±hh:mm`.
-/

namespace Airspace.Time

/-- A field or literal piece of a timestamp layout. -/
inductive Piece where
  | literal (text : String)
  | year | month | day | hour | minute | second | fraction | zone
  deriving Repr, DecidableEq

/-- A layout: its pieces and its own text, which error messages quote. -/
structure Layout where
  pieces : List Piece
  text : String

/-- How each field is written in a layout's text. -/
def Piece.layoutText : Piece → String
  | .literal s => s
  | .year => "2006"
  | .month => "01"
  | .day => "02"
  | .hour => "15"
  | .minute => "04"
  | .second => "05"
  | .fraction => ".999999999"
  | .zone => "Z07:00"

/-- `2006-01-02T15:04:05Z07:00`. -/
def Layout.rfc3339 : Layout :=
  ⟨[.year, .literal "-", .month, .literal "-", .day, .literal "T", .hour, .literal ":",
    .minute, .literal ":", .second, .zone], "2006-01-02T15:04:05Z07:00"⟩

/-- `2006-01-02T15:04:05.999999999Z07:00`. -/
def Layout.rfc3339Nano : Layout :=
  ⟨[.year, .literal "-", .month, .literal "-", .day, .literal "T", .hour, .literal ":",
    .minute, .literal ":", .second, .fraction, .zone], "2006-01-02T15:04:05.999999999Z07:00"⟩

/-- A failed reading. With an empty `message`, the piece `layoutElem` could not
read the text `valueElem`; otherwise `message` says what was out of range. -/
structure ParseError where
  layout : String
  value : List UInt8
  layoutElem : String
  valueElem : List UInt8
  message : String

/-- Hexadecimal digits in lower case. -/
def lowerHex (n : Nat) : Char := "0123456789abcdef".toList.getD n '0'

/-- Quotes bytes: ASCII printable bytes as they are (a quote or backslash
escaped), every other byte as `\xNN`. -/
def quoteBytes (bs : List UInt8) : String :=
  let body := bs.foldl (fun acc b =>
    let n := b.toNat
    if n < 0x20 ∨ n ≥ 0x80 then acc ++ "\\x" ++ String.singleton (lowerHex (n / 16)) ++ String.singleton (lowerHex (n % 16))
    else if n = 0x22 ∨ n = 0x5C then acc ++ "\\" ++ String.singleton (Char.ofNat n)
    else acc.push (Char.ofNat n)) ""
  "\"" ++ body ++ "\""

/-- The text of a reading error. -/
def ParseError.text (e : ParseError) : String :=
  if e.message.isEmpty then
    "parsing time " ++ quoteBytes e.value ++ " as " ++ quoteBytes e.layout.toUTF8.toList ++
      ": cannot parse " ++ quoteBytes e.valueElem ++ " as " ++ quoteBytes e.layoutElem.toUTF8.toList
  else "parsing time " ++ quoteBytes e.value ++ e.message

/-- The fields gathered while reading. -/
structure Fields where
  year : Int := 0
  month : Nat := 1
  day : Nat := 1
  hour : Nat := 0
  minute : Nat := 0
  second : Nat := 0
  nanos : Nat := 0
  /-- The zone offset in seconds, when one was read; `Z` reads as zero. -/
  offset : Option Int := none

/-- Whether a byte is an ASCII digit. -/
def isDigitByte (b : UInt8) : Bool := 0x30 ≤ b && b ≤ 0x39

/-- The value of a digit byte. -/
def digitValue (b : UInt8) : Nat := b.toNat - 0x30

/-- Two digits, or with `fixed` off possibly one. -/
def getNumber (bs : List UInt8) (fixed : Bool) : Option (Nat × List UInt8) :=
  match bs with
  | a :: rest =>
    if !isDigitByte a then none
    else match rest with
      | b :: rest' => if isDigitByte b then some (10 * digitValue a + digitValue b, rest')
                      else if fixed then none else some (digitValue a, rest)
      | [] => if fixed then none else some (digitValue a, [])
  | [] => none

/-- An optionally signed decimal integer filling all the bytes. -/
def readSignedAll (bs : List UInt8) : Option Int :=
  let (negative, ds) := match bs with
    | 0x2D :: r => (true, r)
    | 0x2B :: r => (false, r)
    | r => (false, r)
  if ds.all isDigitByte then
    let v : Int := ds.foldl (fun acc d => 10 * acc + digitValue d) 0
    some (if negative then -v else v)
  else none

/-- Whether the byte separates seconds from their fraction. -/
def isFractionMark (b : UInt8) : Bool := b == 0x2E || b == 0x2C

/-- Nanoseconds from a fraction mark followed by `n - 1` digits; at most nine count. -/
def readNanos (bs : List UInt8) (n : Nat) : Option Nat :=
  let n := min n 10
  match readSignedAll ((bs.take n).drop 1) with
  | some v => some (v.toNat * Nat.pow 10 (10 - n))
  | none => none

/-- The count of leading digit bytes. -/
def digitRun (bs : List UInt8) : Nat := (bs.takeWhile isDigitByte).length

/-- Matches a literal piece: each byte must agree. -/
def skipLiteral (value : List UInt8) (lit : List UInt8) : Except (List UInt8) (List UInt8) :=
  match lit, value with
  | [], v => .ok v
  | l :: ls, v :: vs => if l == v then skipLiteral vs ls else .error (v :: vs)
  | _ :: _, [] => .error []

/-- What reading one field gives: the fields and the rest, a range error, or a failure. -/
inductive FieldResult where
  | ok (f : Fields) (rest : List UInt8)
  | range (what : String) (rest : List UInt8)
  | bad

/-- Reads one field of the layout; `next` is the piece after it. -/
def readField (p : Piece) (next : Option Piece) (f : Fields) (value : List UInt8) : FieldResult :=
  match p with
  | .year =>
    if value.length < 4 || !isDigitByte (value.getD 0 0) then .bad
    else match readSignedAll (value.take 4) with
      | some y => .ok { f with year := y } (value.drop 4)
      | none => .bad
  | .month =>
    match getNumber value true with
    | some (m, rest) => if m = 0 ∨ m > 12 then .range "month" rest else .ok { f with month := m } rest
    | none => .bad
  | .day =>
    match getNumber value true with
    | some (d, rest) => .ok { f with day := d } rest
    | none => .bad
  | .hour =>
    match getNumber value false with
    | some (h, rest) => if h ≥ 24 then .range "hour" rest else .ok { f with hour := h } rest
    | none => .bad
  | .minute =>
    match getNumber value true with
    | some (m, rest) => if m ≥ 60 then .range "minute" rest else .ok { f with minute := m } rest
    | none => .bad
  | .second =>
    match getNumber value true with
    | some (s, rest) =>
      if s ≥ 60 then .range "second" rest
      else
        let f := { f with second := s }
        match rest with
        | m :: d :: _ =>
          if isFractionMark m && isDigitByte d && next != some .fraction then
            let n := 1 + digitRun (rest.drop 1)
            match readNanos rest n with
            | some ns => .ok { f with nanos := ns } (rest.drop n)
            | none => .bad
          else .ok f rest
        | _ => .ok f rest
    | none => .bad
  | .fraction =>
    match value with
    | m :: d :: _ =>
      if isFractionMark m && isDigitByte d then
        let n := 1 + digitRun (value.drop 1)
        match readNanos value n with
        | some ns => .ok { f with nanos := ns } (value.drop n)
        | none => .bad
      else .ok f value
    | _ => .ok f value
  | .zone =>
    match value with
    | 0x5A :: rest => .ok { f with offset := some 0 } rest
    | _ =>
      if value.length < 6 ∨ value.getD 3 0 != 0x3A then .bad
      else
        let sign := value.getD 0 0
        let rest := value.drop 6
        let hour := getNumber ((value.drop 1).take 2) true
        let minute := if hour.isSome then getNumber ((value.drop 4).take 2) true else none
        let hr := (hour.map Prod.fst).getD 0
        let mm := (minute.map Prod.fst).getD 0
        if mm > 60 then .range "time zone offset minute" rest
        else if hr > 24 then .range "time zone offset hour" rest
        else if hour.isNone || minute.isNone || (sign != 0x2B && sign != 0x2D) then .bad
        else
          let magnitude : Int := ((hr * 60 + mm) * 60 : Nat)
          .ok { f with offset := some (if sign == 0x2D then -magnitude else magnitude) } rest
  | .literal _ => .ok f value

/-- Walks the layout over the text. -/
def readPieces (layout : Layout) (all : List UInt8) :
    List Piece → Fields → List UInt8 → Except ParseError (Fields × List UInt8)
  | [], f, value => .ok (f, value)
  | .literal lit :: ps, f, value =>
    match skipLiteral value lit.toUTF8.toList with
    | .ok rest => readPieces layout all ps f rest
    | .error rest => .error ⟨layout.text, all, lit, rest, ""⟩
  | p :: ps, f, value =>
    match readField p ps.head? f value with
    | .ok f rest => readPieces layout all ps f rest
    | .range what _ => .error ⟨layout.text, all, p.layoutText, value, ": " ++ what ++ " out of range"⟩
    | .bad => .error ⟨layout.text, all, p.layoutText, value, ""⟩

/-- Reads a timestamp by a layout. A time with a zone is shown at that zone's offset. -/
def Layout.read (layout : Layout) (bytes : List UInt8) : Except ParseError Timestamp := do
  let (f, rest) ← readPieces layout bytes layout.pieces {} bytes
  if !rest.isEmpty then
    throw ⟨layout.text, bytes, "", rest, ": extra text: " ++ quoteBytes rest⟩
  if f.day < 1 ∨ f.day > daysInMonth f.year f.month then
    throw ⟨layout.text, bytes, "", rest, ": day out of range"⟩
  let offset := f.offset.getD 0
  let wall := daysFromCivil f.year f.month f.day * 86400 + (f.hour * 3600 + f.minute * 60 + f.second : Nat)
  let t := Timestamp.ofEpochNanos ((wall - offset) * nanosPerSecond + f.nanos) offset
  return t

/-- Reads an RFC 3339 timestamp with optional fraction, as text. -/
def Timestamp.parse (s : String) : Except ParseError Timestamp :=
  Layout.rfc3339Nano.read s.toUTF8.toList

/-- `n` in decimal, left-padded with zeros to `width`. -/
def zeroPad (n width : Nat) : String :=
  let s := toString n
  String.ofList (List.replicate (width - s.length) '0') ++ s

/-- The year as at least four digits, a minus sign before negative years. -/
def yearText (y : Int) : String :=
  (if y < 0 then "-" else "") ++ zeroPad y.natAbs 4

/-- The date and time of day, `YYYY-MM-DDThh:mm:ss`. -/
def Timestamp.dateTimeText (t : Timestamp) : String :=
  let c := t.civil
  yearText c.year ++ "-" ++ zeroPad c.month 2 ++ "-" ++ zeroPad c.day 2 ++ "T" ++
    zeroPad c.hour 2 ++ ":" ++ zeroPad c.minute 2 ++ ":" ++ zeroPad c.second 2

/-- The zone as `Z` or `±hh:mm`. -/
def Timestamp.zoneText (t : Timestamp) : String :=
  if t.offset = 0 then "Z"
  else
    let minutes := t.offset.natAbs / 60
    (if t.offset < 0 then "-" else "+") ++ zeroPad (minutes / 60) 2 ++ ":" ++ zeroPad (minutes % 60) 2

/-- The nanoseconds as a fraction without trailing zeros; empty when zero. -/
def fractionText (nanos : Nat) : String :=
  if nanos = 0 then ""
  else
    let digits := (zeroPad nanos 9).toList
    let kept := (digits.reverse.dropWhile (· == '0')).reverse
    "." ++ String.ofList kept

/-- The RFC 3339 text with the shortest fraction. -/
def Timestamp.format (t : Timestamp) : String :=
  t.dateTimeText ++ fractionText t.nanos ++ t.zoneText

/-- The RFC 3339 text to the second, at the timestamp's own offset. -/
def Timestamp.formatSeconds (t : Timestamp) : String := t.dateTimeText ++ t.zoneText

/-- The RFC 3339 text in UTC with exactly three fraction digits (milliseconds, truncated) and `Z`. -/
def Timestamp.formatMillisUtc (t : Timestamp) : String :=
  t.toUtc.dateTimeText ++ "." ++ zeroPad (t.nanos / 1000000) 3 ++ "Z"

end Airspace.Time
