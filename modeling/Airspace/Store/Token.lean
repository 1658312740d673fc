import Airspace.Text.Case

/-!
# Tokens of SQL text

SQL text is split into tokens as the engine splits it:

* spaces (blank, tab, line feed, vertical tab, form feed, return) and comments
  (`--` to the end of the line, `/* … */` or to the end of the text) separate
  tokens, and each token keeps those written before it;
* a text in single quotes, a doubled quote standing for one;
* a name bare (letters, digits, `_`, `$` and every non-ASCII character, not
  starting with a digit or `$`) or quoted in double quotes, backticks or
  brackets;
* a number: `0x` and hexadecimal digits, or digits with an optional point and
  digits and an optional exponent `e±d` (a point may start it too); a decimal
  number running into name characters is no token;
* a blob `x'…'` with an even number of hexadecimal digits;
* a parameter `?`, `?NNN`, `:name`, `@name`, `$name`;
* operators and punctuation, the longest that matches.

An unclosed quote, a bad blob and a character that starts no token give text
that is no token: an unclosed quote runs to the end of the text, a bad blob to
its closing quote. A NUL character ends the text.

Keywords are words matched without regard to ASCII case; most of them may
still serve as names (the fallback keywords), and the rest are reserved.
-/

namespace Airspace.Store

/-- The kind of a token. -/
inductive TokenKind where
  /-- A bare word: a keyword or a name. -/
  | word
  /-- A quoted name and its body; `double` when the quotes are double quotes. -/
  | quoted (body : String) (double : Bool)
  /-- A text in single quotes and its body. -/
  | string (body : String)
  | integer
  | real
  | blob (bytes : List UInt8)
  | parameter
  /-- An operator or punctuation. -/
  | symbol
  /-- Text that is no token. -/
  | illegal
  deriving DecidableEq, Repr

/-- A token: its kind, its text as written, and the spaces and comments
written before it. -/
structure Token where
  kind : TokenKind
  text : String
  gap : String := ""
  deriving DecidableEq, Repr

/-- A token of a kind with its text, nothing written before it. -/
def token (kind : TokenKind) (text : String) : Token := { kind, text }

/-- The engine's keywords. -/
def keywords : List String :=
  ["ABORT", "ACTION", "ADD", "AFTER", "ALL", "ALTER", "ALWAYS", "ANALYZE", "AND", "AS", "ASC",
   "ATTACH", "AUTOINCREMENT", "BEFORE", "BEGIN", "BETWEEN", "BY", "CASCADE", "CASE", "CAST",
   "CHECK", "COLLATE", "COLUMN", "COMMIT", "CONFLICT", "CONSTRAINT", "CREATE", "CROSS", "CURRENT",
   "CURRENT_DATE", "CURRENT_TIME", "CURRENT_TIMESTAMP", "DATABASE", "DEFAULT", "DEFERRABLE",
   "DEFERRED", "DELETE", "DESC", "DETACH", "DISTINCT", "DO", "DROP", "EACH", "ELSE", "END",
   "ESCAPE", "EXCEPT", "EXCLUDE", "EXCLUSIVE", "EXISTS", "EXPLAIN", "FAIL", "FILTER", "FIRST",
   "FOLLOWING", "FOR", "FOREIGN", "FROM", "FULL", "GENERATED", "GLOB", "GROUP", "GROUPS",
   "HAVING", "IF", "IGNORE", "IMMEDIATE", "IN", "INDEX", "INDEXED", "INITIALLY", "INNER",
   "INSERT", "INSTEAD", "INTERSECT", "INTO", "IS", "ISNULL", "JOIN", "KEY", "LAST", "LEFT",
   "LIKE", "LIMIT", "MATCH", "MATERIALIZED", "NATURAL", "NO", "NOT", "NOTHING", "NOTNULL",
   "NULL", "NULLS", "OF", "OFFSET", "ON", "OR", "ORDER", "OTHERS", "OUTER", "OVER", "PARTITION",
   "PLAN", "PRAGMA", "PRECEDING", "PRIMARY", "QUERY", "RAISE", "RANGE", "RECURSIVE",
   "REFERENCES", "REGEXP", "REINDEX", "RELEASE", "RENAME", "REPLACE", "RESTRICT", "RETURNING",
   "RIGHT", "ROLLBACK", "ROW", "ROWS", "SAVEPOINT", "SELECT", "SET", "TABLE", "TEMP",
   "TEMPORARY", "THEN", "TIES", "TO", "TRANSACTION", "TRIGGER", "UNBOUNDED", "UNION", "UNIQUE",
   "UPDATE", "USING", "VACUUM", "VALUES", "VIEW", "VIRTUAL", "WHEN", "WHERE", "WINDOW", "WITH",
   "WITHOUT"]

/-- The keywords that may also serve as names. -/
def nameKeywords : List String :=
  ["ABORT", "ACTION", "AFTER", "ANALYZE", "ASC", "ATTACH", "BEFORE", "BEGIN", "BY", "CASCADE",
   "CAST", "COLUMN", "CONFLICT", "DATABASE", "DEFERRED", "DESC", "DETACH", "DO", "EACH", "END",
   "EXCLUSIVE", "EXPLAIN", "FAIL", "FOR", "IGNORE", "IMMEDIATE", "INITIALLY", "INSTEAD", "LIKE",
   "GLOB", "REGEXP", "MATCH", "NO", "PLAN", "QUERY", "KEY", "OF", "OFFSET", "PRAGMA", "RAISE",
   "RECURSIVE", "RELEASE", "REPLACE", "RESTRICT", "ROW", "ROWS", "ROLLBACK", "SAVEPOINT", "TEMP",
   "TEMPORARY", "TRIGGER", "VACUUM", "VIEW", "VIRTUAL", "WITH", "WITHOUT", "NULLS", "FIRST",
   "LAST", "CURRENT", "FOLLOWING", "PARTITION", "PRECEDING", "RANGE", "UNBOUNDED", "EXCLUDE",
   "GROUPS", "OTHERS", "TIES", "GENERATED", "ALWAYS", "MATERIALIZED", "REINDEX", "RENAME",
   "CURRENT_TIME", "CURRENT_DATE", "CURRENT_TIMESTAMP", "IF", "CROSS", "FULL", "INNER", "LEFT",
   "NATURAL", "OUTER", "RIGHT", "INDEXED", "FILTER", "OVER", "WINDOW"]

/-- A word in ASCII upper case, as keywords are compared. -/
def upperAscii (s : String) : String :=
  String.ofList (s.toList.map fun c => if 'a' ≤ c && c ≤ 'z' then Char.ofNat (c.toNat - 32) else c)

/-- Whether a token is a word that is a keyword. -/
def Token.isKeyword (t : Token) : Bool := t.kind == .word && keywords.contains (upperAscii t.text)

/-- Whether a token is the keyword `k` (given in upper case). -/
def Token.is (t : Token) (k : String) : Bool := t.kind == .word && upperAscii t.text == k

/-- Whether a token is the operator or punctuation `s`. -/
def Token.isSymbol (t : Token) (s : String) : Bool := t.kind == .symbol && t.text == s

/-- Whether a character is one of the engine's spaces. -/
def isSqlSpace (c : Char) : Bool :=
  c == ' ' || c == '\t' || c == '\n' || c == '\x0B' || c == '\x0C' || c == '\r'

/-- Whether a character may continue a name. -/
def isNameChar (c : Char) : Bool := c.isAlphanum || c == '_' || c == '$' || c.toNat ≥ 0x80

/-- Whether a character is a hexadecimal digit. -/
def isHexChar (c : Char) : Bool := c.isDigit || ('a' ≤ c && c ≤ 'f') || ('A' ≤ c && c ≤ 'F')

/-- The body of a quoted text or name after its opening quote, a doubled quote
standing for one; also the text of the body as written and the rest after the
closing quote. `none` when the quote is not closed. -/
def quotedBody (q : Char) : List Char → List Char → List Char → Option (String × List Char × List Char)
  | _, _, [] => none
  | acc, raw, c :: rest =>
    if c == q then
      match rest with
      | d :: rest' =>
        if d == q then quotedBody q (q :: acc) (q :: q :: raw) rest'
        else some (String.ofList acc.reverse, (c :: raw).reverse, rest)
      | [] => some (String.ofList acc.reverse, (c :: raw).reverse, [])
    else quotedBody q (c :: acc) (c :: raw) rest

/-- The value of a hexadecimal digit. -/
def hexValue (c : Char) : Nat :=
  if c.isDigit then c.toNat - 0x30 else (Text.lowerAsciiChar c).toNat - 0x61 + 10

/-- Bytes from pairs of hexadecimal digits. -/
def hexBytes : List Char → List UInt8
  | a :: b :: rest => UInt8.ofNat (16 * hexValue a + hexValue b) :: hexBytes rest
  | _ => []

/-- The exponent of a number token: `e` or `E`, an optional sign and digits; nothing if no digit follows. -/
def exponentChars : List Char → List Char
  | e :: d :: rest =>
    if (e == 'e' || e == 'E') && d.isDigit then e :: d :: rest.takeWhile Char.isDigit
    else if (e == 'e' || e == 'E') && (d == '+' || d == '-') then
      match rest with
      | d' :: rest' => if d'.isDigit then e :: d :: d' :: rest'.takeWhile Char.isDigit else []
      | [] => []
    else []
  | _ => []

/-- A number token at the start of the text, and the rest. -/
def numberToken (cs : List Char) : Token × List Char :=
  match cs with
  | '0' :: x :: h :: rest =>
    if (x == 'x' || x == 'X') && isHexChar h then
      let ds := (h :: rest).takeWhile isHexChar
      (token .integer (String.ofList ('0' :: x :: ds)), (h :: rest).drop ds.length)
    else decimal
  | _ => decimal
where
  /-- Digits, an optional point and digits, an optional exponent; name characters right after make it no token. -/
  decimal : Token × List Char :=
    let whole := cs.takeWhile Char.isDigit
    let rest := cs.drop whole.length
    let (point, rest) : List Char × List Char := match rest with
      | '.' :: r => ('.' :: r.takeWhile Char.isDigit, r.dropWhile Char.isDigit)
      | r => ([], r)
    let expo := exponentChars rest
    let rest := rest.drop expo.length
    let text := whole ++ point ++ expo
    let tail := rest.takeWhile isNameChar
    if !tail.isEmpty then (token .illegal (String.ofList (text ++ tail)), rest.drop tail.length)
    else if point.isEmpty && expo.isEmpty then (token .integer (String.ofList text), rest)
    else (token .real (String.ofList text), rest)

/-- A blob literal after `x'`: hexadecimal digits, an even number of them, and the closing quote. -/
def blobToken (mark : Char) (cs : List Char) : Token × List Char :=
  let ds := cs.takeWhile isHexChar
  let rest := cs.drop ds.length
  match rest with
  | '\'' :: r =>
    if ds.length % 2 == 0 then (token (.blob (hexBytes ds)) (String.ofList (mark :: '\'' :: ds ++ ['\''])), r)
    else (token .illegal (String.ofList (mark :: '\'' :: ds ++ ['\''])), r)
  | _ =>
    let upTo := rest.takeWhile (· != '\'')
    let after := rest.drop upTo.length
    let closing := if after.isEmpty then [] else ['\'']
    (token .illegal (String.ofList (mark :: '\'' :: ds ++ upTo ++ closing)), after.drop 1)

/-- Skips a block comment's body, past its closing mark or to the end of the text. -/
def skipBlockComment : List Char → List Char
  | '*' :: '/' :: rest => rest
  | _ :: rest => skipBlockComment rest
  | [] => []

/-- The operators of two or three characters, longest first. -/
def longSymbols : List String := ["->>", "||", "==", "<=", "<>", "<<", ">=", ">>", "!=", "->"]

/-- The operators and punctuation of one character. -/
def shortSymbols : List Char := ['(', ')', ';', ',', '.', '+', '-', '*', '/', '%', '=', '<', '>', '|', '&', '~']

/-- The operator at the start of the text, if one is there. -/
def symbolAt (cs : List Char) : Option String :=
  match longSymbols.find? fun s => s.toList.isPrefixOf cs with
  | some s => some s
  | none => match cs with
    | c :: _ => if shortSymbols.contains c then some (String.singleton c) else none
    | [] => none

/-- Splits text into tokens, each with the spaces and comments before it
(`gap` holds those met since the last token); `fuel` bounds the number of
steps, and the length of the text is enough. -/
def lexTokens : Nat → List Char → List Char → List Token
  | _, _, [] => []
  | 0, gap, cs => [{ kind := .illegal, text := String.ofList cs, gap := String.ofList gap }]
  | fuel + 1, gap, c :: rest =>
    let emit := fun (t : Token) (r : List Char) => { t with gap := String.ofList gap } :: lexTokens fuel [] r
    let last := fun (t : Token) => [{ t with gap := String.ofList gap }]
    if isSqlSpace c then lexTokens fuel (gap ++ [c]) rest
    else if c == '-' && rest.head? == some '-' then
      let comment := (c :: rest).takeWhile (· != '\n')
      lexTokens fuel (gap ++ comment) (rest.drop (comment.length - 1))
    else if c == '/' && rest.head? == some '*' && rest.length > 1 then
      let after := skipBlockComment (rest.drop 1)
      lexTokens fuel (gap ++ (c :: rest).take (rest.length + 1 - after.length)) after
    else if c == '\'' then
      match quotedBody '\'' [] [] rest with
      | some (s, raw, r) => emit (token (.string s) (String.ofList (c :: raw))) r
      | none => last (token .illegal (String.ofList (c :: rest)))
    else if c == '"' || c == '\x60' then
      match quotedBody c [] [] rest with
      | some (s, raw, r) => emit (token (.quoted s (c == '"')) (String.ofList (c :: raw))) r
      | none => last (token .illegal (String.ofList (c :: rest)))
    else if c == '[' then
      let body := rest.takeWhile (· != ']')
      if body.length == rest.length then last (token .illegal (String.ofList (c :: rest)))
      else emit (token (.quoted (String.ofList body) false) (String.ofList (c :: body ++ [']'])))
        (rest.drop (body.length + 1))
    else if (c == 'x' || c == 'X') && rest.head? == some '\'' then
      let (t, r) := blobToken c (rest.drop 1)
      emit t r
    else if c.isDigit || (c == '.' && (rest.head?.map Char.isDigit).getD false) then
      let (t, r) := numberToken (c :: rest)
      emit t r
    else if c == '?' then
      let ds := rest.takeWhile Char.isDigit
      emit (token .parameter (String.ofList (c :: ds))) (rest.drop ds.length)
    else if c == ':' || c == '@' || c == '$' || c == '#' then
      let w := rest.takeWhile isNameChar
      let kind := if w.isEmpty then TokenKind.illegal else .parameter
      emit (token kind (String.ofList (c :: w))) (rest.drop w.length)
    else if isNameChar c then
      let w := rest.takeWhile isNameChar
      emit (token .word (String.ofList (c :: w))) (rest.drop w.length)
    else match symbolAt (c :: rest) with
      | some s => emit (token .symbol s) (rest.drop (s.length - 1))
      | none => emit (token .illegal (String.singleton c)) rest

/-- The tokens of SQL text, which ends at its first NUL character. -/
def lex (sql : String) : List Token :=
  let cs := sql.toList.takeWhile (· != '\x00')
  lexTokens (cs.length + 1) [] cs

end Airspace.Store
