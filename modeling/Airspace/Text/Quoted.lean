import Airspace.Text.Utf8
import Airspace.Text.Printable

/-!
# Quoting a character for a message

Messages show an offending character between single quotes. A printable
character stands for itself; `'` and `\` are escaped with a backslash; the
controls with a short escape use it (`\a \b \f \n \r \t \v`); another ASCII
control, or a byte that begins no well-formed sequence, is `\xHH`; any other
character that is not printable is `\uHHHH` or `\UHHHHHHHH`.

Printable is as `Text.Printable` says: letters, marks, numbers, punctuation,
symbols and the ASCII space.
-/

namespace Airspace.Text

/-- `n` as `width` lower-case hexadecimal digits. -/
def hexDigits (n width : Nat) : String :=
  String.ofList ((List.range width).reverse.map fun k => "0123456789abcdef".toList.getD (n / Nat.pow 16 k % 16) '0')

/-- The escaped form of one character inside the quotes. -/
def escapeForMessage (c : Char) : String :=
  match c with
  | '\'' => "\\'"
  | '\\' => "\\\\"
  | '\x07' => "\\a"
  | '\x08' => "\\b"
  | '\x0c' => "\\f"
  | '\n' => "\\n"
  | '\r' => "\\r"
  | '\t' => "\\t"
  | '\x0b' => "\\v"
  | _ =>
    if isPrintable c then String.singleton c
    else if c.toNat < 0x20 || c.toNat == 0x7F then "\\x" ++ hexDigits c.toNat 2
    else if c.toNat < 0x10000 then "\\u" ++ hexDigits c.toNat 4
    else "\\U" ++ hexDigits c.toNat 8

/-- The character that starts the bytes, quoted: `'c'`. A byte that starts no
well-formed sequence is shown as `'\xHH'`. -/
def quoteLeading (bs : List UInt8) : String :=
  match bs with
  | [] => "''"
  | b :: rest =>
    let (c, k) := decodeLead b rest
    if c == replacement && k == 0 && b ≥ 0x80 then "'\\x" ++ hexDigits b.toNat 2 ++ "'"
    else if c == '"' then "'\"'"
    else "'" ++ escapeForMessage c ++ "'"

/-- One character inside double quotes: `"` and `\` with a backslash, a
character that is not printable by its escape. -/
def escapeInText (c : Char) : String :=
  if c == '"' then "\\\"" else if c == '\'' then "'" else escapeForMessage c

/-- A text between double quotes, escaped as messages show it. -/
def quoteText (s : String) : String :=
  "\"" ++ String.join (s.toList.map escapeInText) ++ "\""

/-- The body of `quoteBytes`: each well-formed character as `escapeInText`
writes it, each byte that begins no well-formed sequence as `\xHH`. -/
def escapeBytes : List UInt8 → String
  | [] => ""
  | b :: rest =>
    let (c, k) := decodeLead b rest
    let head := if c == replacement && k == 0 && b ≥ 0x80 then "\\x" ++ hexDigits b.toNat 2 else escapeInText c
    head ++ escapeBytes (rest.drop k)
termination_by bs => bs.length
decreasing_by simp only [List.length_drop, List.length_cons]; omega

/-- Bytes between double quotes, escaped as messages show them. -/
def quoteBytes (bs : List UInt8) : String := "\"" ++ escapeBytes bs ++ "\""

end Airspace.Text
