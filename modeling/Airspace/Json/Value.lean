import Airspace.Decimal.Notation

/-!
# JSON values and their text

A JSON value keeps a number as its literal text, so that a reader can decide
later which numeric type it must fit, and a writer can put any chosen digits.
Objects keep their members in order, duplicates included.

Writing escapes a quote, a backslash and the control characters (with the short
forms `\b \f \n \r \t` where they exist), and always the line and paragraph
separators U+2028 and U+2029; with `escapeHtml` also `<`, `>` and `&`.
-/

namespace Airspace.Json

/-- A JSON value. -/
inductive Value where
  | null
  | bool (b : Bool)
  | number (literal : String)
  | string (s : String)
  | array (items : List Value)
  | object (members : List (String × Value))
  deriving Inhabited, Repr

/-- How a value is written. -/
structure Style where
  /-- Whether `<`, `>` and `&` are written as escapes. -/
  escapeHtml : Bool := false
  /-- Whether object members are written in byte order of their keys. -/
  sortKeys : Bool := false

/-- Four lower-case hexadecimal digits. -/
def hex4 (n : Nat) : String :=
  let d := fun k => String.singleton ("0123456789abcdef".toList.getD ((n / Nat.pow 16 k) % 16) '0')
  d 3 ++ d 2 ++ d 1 ++ d 0

/-- One character of a string's body, escaped as needed. -/
def escapeChar (style : Style) (c : Char) : String :=
  match c with
  | '"' => "\\\""
  | '\\' => "\\\\"
  | '\n' => "\\n"
  | '\r' => "\\r"
  | '\t' => "\\t"
  | '\x08' => "\\b"
  | '\x0c' => "\\f"
  | _ =>
    if c.toNat < 0x20 then "\\u" ++ hex4 c.toNat
    else if c.toNat = 0x2028 ∨ c.toNat = 0x2029 then "\\u" ++ hex4 c.toNat
    else if style.escapeHtml ∧ (c = '<' ∨ c = '>' ∨ c = '&') then "\\u" ++ hex4 c.toNat
    else String.singleton c

/-- A string as a JSON string literal. -/
def quote (style : Style) (s : String) : String :=
  "\"" ++ String.join (s.toList.map (escapeChar style)) ++ "\""

/-- Whether `a` sorts before `b` by bytes. -/
def keyBefore (a b : String) : Bool := decide (a.toUTF8.toList < b.toUTF8.toList)

/-- The text of a value. -/
def Value.render (style : Style) : Value → String
  | .null => "null"
  | .bool b => if b then "true" else "false"
  | .number lit => lit
  | .string s => quote style s
  | .array items => "[" ++ ",".intercalate (items.attach.map fun ⟨v, _⟩ => v.render style) ++ "]"
  | .object members =>
    let written := members.attach.map fun ⟨(k, v), _⟩ => (k, quote style k ++ ":" ++ v.render style)
    let ordered := if style.sortKeys then written.mergeSort (fun a b => !keyBefore b.1 a.1) else written
    "\x7b" ++ ",".intercalate (ordered.map Prod.snd) ++ "\x7d"
decreasing_by
  all_goals
    have h := List.sizeOf_lt_of_mem ‹_ ∈ _›
    simp only [Prod.mk.sizeOf_spec, Value.object.sizeOf_spec, Value.array.sizeOf_spec] at *
    omega

/-- How numbers are written in JSON: shortest digits, positional from `1e-6` up
to below `1e21`, otherwise with an exponent without leading zeros. -/
def numberNotation : Decimal.Notation := ⟨-6, 20, 1, "NaN", "+Inf", "-Inf"⟩

/-- A finite float as a JSON number. -/
def Value.ofFloat (x : Float) : Value := .number (numberNotation.render x)

/-- An integer as a JSON number. -/
def Value.ofInt (n : Int) : Value := .number (toString n)

/-- The member of an object under a key; the last one when repeated. -/
def Value.field? (v : Value) (key : String) : Option Value :=
  match v with
  | .object members => (members.reverse.find? (·.1 == key)).map Prod.snd
  | _ => none

end Airspace.Json
