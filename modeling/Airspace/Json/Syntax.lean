import Airspace.Json.Value
import Airspace.Text.Quoted
import Airspace.Text.Blank

/-!
# Reading JSON text

A JSON document is read from its bytes into a `Value`. Strings are decoded:
escapes are resolved, a surrogate pair written as two `\u` escapes becomes one
character, a lone surrogate and every byte that begins no well-formed UTF-8
sequence become U+FFFD. Numbers keep their literal text.

A document that is not JSON is refused with the first fault in reading order,
described by the offending character and what was expected there:

* `unexpected end of JSON input` when the bytes end inside a value;
* `invalid character 'c' looking for beginning of value`, `… of object key string`,
  `… after object key`, `… after object key:value pair`, `… after array element`,
  `… after top-level value`;
* inside a string `… in string` (a control character);
* inside a number `… in numeric literal`;
* inside `true`, `false`, `null`: `… in literal true (expecting 'r')` and so on.

A malformed escape is shown whole: `invalid escape sequence` followed by the
backslash and the character after it, or for `\u` the backslash and the five
bytes after it, then `in string`. The escape stands between backticks, or is
quoted when it holds a backtick, a space, a character that is not printable or
a byte that begins no well-formed sequence. An escape `\u` cut short by the end
of the input is the end of input when what is there could still begin one.

White space between tokens is the space, tab, line feed and carriage return.
Arrays and objects nest at most 10000 deep; the opening bracket of one more is
refused with `exceeded max depth`.
-/

namespace Airspace.Json

/-- Why bytes are not a JSON document. -/
structure SyntaxError where
  message : String
  deriving Repr, DecidableEq

/-- A list of bytes. -/
abbrev Bytes := List UInt8

/-- The fault of input that ends too soon. -/
def endOfInput : SyntaxError := ⟨"unexpected end of JSON input"⟩

/-- The fault of the character that starts `bs`, in a context; the end of input
when `bs` is empty. -/
def invalidAt (bs : Bytes) (context : String) : SyntaxError :=
  match bs with
  | [] => endOfInput
  | _ => ⟨"invalid character " ++ Text.quoteLeading bs ++ " " ++ context⟩

/-- The deepest nesting of arrays and objects a document may have. -/
def maxDepth : Nat := 10000

/-- The fault of an array or object opened deeper than `maxDepth`. -/
def tooDeep : SyntaxError := ⟨"exceeded max depth"⟩

/-- Whether a byte is white space between tokens. -/
def isSpace (b : UInt8) : Bool := b == 0x20 || b == 0x09 || b == 0x0A || b == 0x0D

/-- The bytes after leading white space. -/
def skipSpace (bs : Bytes) : Bytes := bs.dropWhile isSpace

/-- Whether a byte is a decimal digit. -/
def isDigit (b : UInt8) : Bool := 0x30 ≤ b && b ≤ 0x39

/-- The value of a hexadecimal digit. -/
def hexValue? (b : UInt8) : Option Nat :=
  if isDigit b then some (b.toNat - 0x30)
  else if 0x61 ≤ b && b ≤ 0x66 then some (b.toNat - 0x61 + 10)
  else if 0x41 ≤ b && b ≤ 0x46 then some (b.toNat - 0x41 + 10)
  else none

/-- Whether a character of an escape must be quoted rather than put between
backticks: a backtick, U+FFFD, white space or a character that is not printable. -/
def needsQuoting (c : Char) : Bool :=
  c.toNat == 0x60 || c == Text.replacement || Text.isBlank c || !Text.isPrintable c

/-- The fault of a malformed escape, given as its bytes from the backslash on. -/
def invalidEscape (what : Bytes) : SyntaxError :=
  if (Text.decode what).any needsQuoting then
    ⟨"invalid escape sequence " ++ Text.quoteBytes what ++ " in string"⟩
  else ⟨"invalid escape sequence `" ++ Text.toText what ++ "` in string"⟩

/-- Whether bytes shorter than a `\u` escape could still begin one. -/
def couldBeginEscape (bs : Bytes) : Bool :=
  (bs.zipIdx.all fun (b, i) =>
    if i == 0 then b == 0x5C else if i == 1 then b == 0x75 else (hexValue? b).isSome)

/-- The value of four hexadecimal digits, if they are. -/
def hex4? (bs : Bytes) : Option Nat :=
  match bs with
  | [a, b, c, d] => do
    let a ← hexValue? a
    let b ← hexValue? b
    let c ← hexValue? c
    let d ← hexValue? d
    pure (((a * 16 + b) * 16 + c) * 16 + d)
  | _ => none

/-- Reads the code unit of a `\u` escape, `bs` starting at its backslash. -/
def readHex4 (bs : Bytes) : Except SyntaxError (Nat × Bytes) :=
  if bs.length < 6 then
    if couldBeginEscape bs then throw endOfInput else throw (invalidEscape bs)
  else match hex4? ((bs.drop 2).take 4) with
    | some u => pure (u, bs.drop 6)
    | none => throw (invalidEscape (bs.take 6))

/-- The code unit of a `\u` escape at the start of `bs`, if well formed. -/
def peekEscape (bs : Bytes) : Option (Nat × Bytes) :=
  match bs with
  | 0x5C :: 0x75 :: _ => (readHex4 bs).toOption
  | _ => none

/-- Whether a code unit is a high (leading) surrogate. -/
def isHighSurrogate (u : Nat) : Bool := 0xD800 ≤ u && u < 0xDC00

/-- Whether a code unit is a low (trailing) surrogate. -/
def isLowSurrogate (u : Nat) : Bool := 0xDC00 ≤ u && u < 0xE000

/-- The character of a simple escape. -/
def simpleEscape (b : UInt8) : Option Char :=
  match b with
  | 0x22 => some '"'
  | 0x5C => some '\\'
  | 0x2F => some '/'
  | 0x62 => some '\x08'
  | 0x66 => some '\x0c'
  | 0x6E => some '\n'
  | 0x72 => some '\r'
  | 0x74 => some '\t'
  | _ => none

/-- Reads the body of a string after its opening quote, up to and including the
closing quote. -/
def readString (fuel : Nat) (acc : List Char) (bs : Bytes) : Except SyntaxError (String × Bytes) :=
  match fuel with
  | 0 => throw endOfInput
  | fuel + 1 =>
    match bs with
    | [] => throw endOfInput
    | b :: rest =>
      if b == 0x22 then pure (String.ofList acc.reverse, rest)
      else if b == 0x5C then
        match rest with
        | [] => throw endOfInput
        | e :: rest' =>
          match simpleEscape e with
          | some c => readString fuel (c :: acc) rest'
          | none =>
            if e == 0x75 then do
              let (u, after) ← readHex4 bs
              if isHighSurrogate u || isLowSurrogate u then
                match peekEscape after with
                | some (l, after') =>
                  if isHighSurrogate u && isLowSurrogate l then
                    readString fuel (Text.charOf (0x10000 + (u - 0xD800) * 0x400 + (l - 0xDC00)) :: acc) after'
                  else readString fuel (Text.replacement :: acc) after
                | none => readString fuel (Text.replacement :: acc) after
              else readString fuel (Text.charOf u :: acc) after
            else throw (invalidEscape [b, e])
      else if b < 0x20 then throw (invalidAt bs "in string")
      else
        let (c, k) := Text.decodeLead b rest
        readString fuel (c :: acc) (rest.drop k)

/-- The leading digits and the rest. -/
def spanDigits (bs : Bytes) : Bytes × Bytes := (bs.takeWhile isDigit, bs.dropWhile isDigit)

/-- The sign of a number: a minus, or nothing. -/
def readSign (bs : Bytes) : Bytes × Bytes :=
  match bs with
  | 0x2D :: r => ([0x2D], r)
  | r => ([], r)

/-- The integer part of a number: a lone zero, or digits. -/
def readWhole (r : Bytes) : Except SyntaxError (Bytes × Bytes) :=
  match r with
  | 0x30 :: r' => pure ([0x30], r')
  | d :: _ => if isDigit d then pure (spanDigits r) else throw (invalidAt r "in numeric literal")
  | [] => throw endOfInput

/-- The fraction of a number: a point and digits, or nothing. -/
def readFraction (r : Bytes) : Except SyntaxError (Bytes × Bytes) :=
  match r with
  | 0x2E :: r' =>
    match r' with
    | d :: _ =>
      if isDigit d then
        let (ds, r'') := spanDigits r'
        pure (0x2E :: ds, r'')
      else throw (invalidAt r' "in numeric literal")
    | [] => throw endOfInput
  | _ => pure ([], r)

/-- The sign of an exponent: a plus, a minus, or nothing. -/
def readExponentSign (r : Bytes) : Bytes × Bytes :=
  match r with
  | 0x2B :: t => ([0x2B], t)
  | 0x2D :: t => ([0x2D], t)
  | t => ([], t)

/-- The exponent of a number: `e` or `E`, a sign and digits, or nothing. -/
def readExponentPart (r : Bytes) : Except SyntaxError (Bytes × Bytes) :=
  match r with
  | e :: r' =>
    if e == 0x65 || e == 0x45 then
      let (es, r'') := readExponentSign r'
      match r'' with
      | d :: _ =>
        if isDigit d then
          let (ds, t) := spanDigits r''
          pure (e :: es ++ ds, t)
        else throw (invalidAt r'' "in numeric literal")
      | [] => throw endOfInput
    else pure ([], r)
  | [] => pure ([], r)

/-- Reads a number, returning its literal text and the rest. -/
def readNumber (bs : Bytes) : Except SyntaxError (String × Bytes) := do
  let (sign, r) := readSign bs
  let (whole, r) ← readWhole r
  let (frac, r) ← readFraction r
  let (exp, r) ← readExponentPart r
  pure (Text.toText (sign ++ whole ++ frac ++ exp), r)

/-- Reads the rest of a literal word after its first letter. -/
def readWord (word : String) (expected : List UInt8) (bs : Bytes) : Except SyntaxError Bytes :=
  expected.foldl (fun acc e => do
    let r ← acc
    match r with
    | [] => throw endOfInput
    | b :: r' =>
      if b == e then pure r'
      else throw (invalidAt r ("in literal " ++ word ++ " (expecting " ++
        Text.quoteLeading [e] ++ ")"))) (pure bs)

mutual

/-- Reads one value after optional white space, inside `depth` open arrays and
objects. -/
def readValue : Nat → Nat → Bytes → Except SyntaxError (Value × Bytes)
  | 0, _, _ => throw endOfInput
  | fuel + 1, depth, bs =>
    let bs := skipSpace bs
    match bs with
    | [] => throw endOfInput
    | b :: rest =>
      if (b == 0x7B || b == 0x5B) && depth ≥ maxDepth then throw tooDeep
      else if b == 0x7B then readMembers fuel (depth + 1) [] rest true
      else if b == 0x5B then readItems fuel (depth + 1) [] rest true
      else if b == 0x22 then do
        let (s, r) ← readString (rest.length + 1) [] rest
        pure (.string s, r)
      else if b == 0x2D || isDigit b then do
        let (lit, r) ← readNumber bs
        pure (.number lit, r)
      else if b == 0x74 then do pure (.bool true, ← readWord "true" [0x72, 0x75, 0x65] rest)
      else if b == 0x66 then do pure (.bool false, ← readWord "false" [0x61, 0x6C, 0x73, 0x65] rest)
      else if b == 0x6E then do pure (.null, ← readWord "null" [0x75, 0x6C, 0x6C] rest)
      else throw (invalidAt bs "looking for beginning of value")

/-- Reads array items after `[` or after a comma. -/
def readItems : Nat → Nat → List Value → Bytes → Bool → Except SyntaxError (Value × Bytes)
  | 0, _, _, _, _ => throw endOfInput
  | fuel + 1, depth, acc, bs, first =>
    let bs := skipSpace bs
    match bs with
    | 0x5D :: r => if first then pure (.array acc.reverse, r)
                   else throw (invalidAt bs "looking for beginning of value")
    | _ => do
      let (v, r) ← readValue fuel depth bs
      let r := skipSpace r
      match r with
      | [] => throw endOfInput
      | c :: r' =>
        if c == 0x2C then readItems fuel depth (v :: acc) r' false
        else if c == 0x5D then pure (.array (v :: acc).reverse, r')
        else throw (invalidAt r "after array element")

/-- Reads object members after `{` or after a comma. -/
def readMembers : Nat → Nat → List (String × Value) → Bytes → Bool → Except SyntaxError (Value × Bytes)
  | 0, _, _, _, _ => throw endOfInput
  | fuel + 1, depth, acc, bs, first =>
    let bs := skipSpace bs
    match bs with
    | [] => throw endOfInput
    | c :: r =>
      if first && c == 0x7D then pure (.object acc.reverse, r)
      else if c == 0x22 then do
        let (k, r) ← readString (r.length + 1) [] r
        let r := skipSpace r
        match r with
        | [] => throw endOfInput
        | c :: r' =>
          if c != 0x3A then throw (invalidAt r "after object key")
          else do
            let (v, r) ← readValue fuel depth r'
            let r := skipSpace r
            match r with
            | [] => throw endOfInput
            | c :: r' =>
              if c == 0x2C then readMembers fuel depth ((k, v) :: acc) r' false
              else if c == 0x7D then pure (.object ((k, v) :: acc).reverse, r')
              else throw (invalidAt r "after object key:value pair")
      else throw (invalidAt bs "looking for beginning of object key string")

end

/-- Reads a whole document: one value, then only white space. -/
def parse (bs : Bytes) : Except SyntaxError Value := do
  let (v, r) ← readValue (2 * bs.length + 2) 0 bs
  match skipSpace r with
  | [] => pure v
  | rest => throw (invalidAt rest "after top-level value")

/-- Why no value could be read from the front of a byte stream. -/
inductive StreamFault where
  /-- The stream holds only white space. -/
  | exhausted
  /-- The stream ends inside a value. -/
  | truncated
  /-- The value is malformed. -/
  | malformed (e : SyntaxError)

/-- The text of a stream fault. -/
def StreamFault.message : StreamFault → String
  | .exhausted => "EOF"
  | .truncated => "unexpected EOF"
  | .malformed e => e.message

/-- Reads the first value of a stream; what follows it is not looked at. -/
def readFirst (bs : Bytes) : Except StreamFault Value :=
  if (skipSpace bs).isEmpty then .error .exhausted
  else match readValue (2 * bs.length + 2) 0 bs with
    | .ok (v, _) => .ok v
    | .error e => if e == endOfInput then .error .truncated else .error (.malformed e)

/-- Reads a document given as text. -/
def parseText (s : String) : Except SyntaxError Value := parse s.toUTF8.toList

end Airspace.Json
