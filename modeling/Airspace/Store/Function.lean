import Airspace.Store.Calendar
import Airspace.Store.FormatString
import Airspace.Store.Mathematics
import Airspace.Store.DocumentFunction

/-!
# Built-in functions

The engine's scalar functions that do not depend on chance.
Texts are handled as bytes: a character is a byte below `0x80`, or a byte
from `0xC0` with the continuation bytes after it, and any other byte alone.
Case is changed for ASCII letters only.

A function is known by its name in any case and takes some numbers of
arguments; a call of an unknown name or with a wrong number of arguments is
refused before anything runs.
-/

namespace Airspace.Store

/-- Whether a byte continues a character. -/
def isContinuation (b : UInt8) : Bool := 0x80 ≤ b && b < 0xC0

/-- The characters of a text's bytes: a byte from `0xC0` takes the continuation bytes after it. -/
def characters : List UInt8 → List (List UInt8)
  | [] => []
  | b :: rest =>
    if b ≥ 0xC0 then
      let more := rest.takeWhile isContinuation
      (b :: more) :: characters (rest.drop more.length)
    else [b] :: characters rest
termination_by bs => bs.length
decreasing_by all_goals (simp only [List.length_drop, List.length_cons]; omega)

/-- The hexadecimal digits of bytes, in upper case. -/
def hexText (bs : List UInt8) : List UInt8 :=
  let digit := fun (n : Nat) => if n < 10 then UInt8.ofNat (0x30 + n) else UInt8.ofNat (0x41 + n - 10)
  bs.flatMap fun b => [digit (b.toNat / 16), digit (b.toNat % 16)]

/-- The UTF-8 bytes of a code point. -/
def utf8Bytes (n : Nat) : List UInt8 :=
  if n < 0x80 then [UInt8.ofNat n]
  else if n < 0x800 then [UInt8.ofNat (0xC0 + n / 64), UInt8.ofNat (0x80 + n % 64)]
  else if n < 0x10000 then
    [UInt8.ofNat (0xE0 + n / 4096), UInt8.ofNat (0x80 + n / 64 % 64), UInt8.ofNat (0x80 + n % 64)]
  else
    [UInt8.ofNat (0xF0 + n / 262144 % 8), UInt8.ofNat (0x80 + n / 4096 % 64), UInt8.ofNat (0x80 + n / 64 % 64),
     UInt8.ofNat (0x80 + n % 64)]

/-- The code point of a character's bytes, decoded without checks. -/
def codePoint : List UInt8 → Nat
  | [] => 0
  | b :: rest =>
    let lead := if b < 0x80 then b.toNat else if b < 0xE0 then b.toNat % 32 else if b < 0xF0 then b.toNat % 16
      else b.toNat % 8
    if b < 0xC0 then b.toNat else rest.foldl (fun acc c => 64 * acc + c.toNat % 64) lead

/-- Whether `pattern` occurs in `bs` at its start. -/
def startsWithBytes (pattern bs : List UInt8) : Bool := pattern.isPrefixOf bs

/-- The place of the first occurrence of `pattern` in `bs`, counted in characters from 1; 0 when absent. -/
def findCharacters (pattern : List UInt8) (cs : List (List UInt8)) : Nat :=
  let rec go : Nat → List (List UInt8) → Nat
    | _, [] => 0
    | i, c :: rest => if pattern.isPrefixOf (c ++ rest.flatten) then i else go (i + 1) rest
  if pattern.isEmpty then 1 else go 1 cs

/-- `bs` with every occurrence of a nonempty `pattern` replaced, from the left. -/
def replaceBytes (pattern replacement : List UInt8) : List UInt8 → List UInt8
  | [] => []
  | b :: rest =>
    if !pattern.isEmpty && pattern.isPrefixOf (b :: rest) then
      replacement ++ replaceBytes pattern replacement ((b :: rest).drop pattern.length)
    else b :: replaceBytes pattern replacement rest
termination_by bs => bs.length
decreasing_by
  all_goals simp_wf
  all_goals (cases pattern with
    | nil => simp_all
    | cons p ps => simp only [List.length_cons]; omega)

/-- A text in single quotes, each quote doubled. -/
def quoteSql (bs : List UInt8) : List UInt8 :=
  [0x27] ++ bs.flatMap (fun b => if b == 0x27 then [0x27, 0x27] else [b]) ++ [0x27]

/-- The characters `substr` takes: from `start` (counted from 1; negative from
the end; 0 before the first), `count` of them (negative: those before the start). -/
def substrRange (len : Int) (start : Int) (count : Option Int) : Nat × Nat :=
  let (p2, negP2) : Int × Bool := match count with
    | some c => if c < 0 then (-c, true) else (c, false)
    | none => (1000000000, false)
  let (p1, p2) : Int × Int :=
    if start < 0 then
      let p1 := start + len
      if p1 < 0 then (0, max 0 (p2 + p1)) else (p1, p2)
    else if start > 0 then (start - 1, p2)
    else (0, if p2 > 0 then p2 - 1 else p2)
  let (p1, p2) : Int × Int :=
    if negP2 then
      let p1' := p1 - p2
      if p1' < 0 then (0, p2 + p1') else (p1', p2)
    else (p1, p2)
  (p1.toNat, (max p2 0).toNat)

/-- Whether two characters match in a `LIKE` pattern: exactly, or with ASCII
letters in any case. -/
def likeSame (exact : Bool) (p t : List UInt8) : Bool :=
  if exact then p == t else p.map lowerByte == t.map lowerByte

/-- Matches a `LIKE` pattern: `%` any run, `_` any character, ASCII letters
in any case unless `exact`, `escape` making the next character plain. -/
def likeMatch (exact : Bool) (escape : Option (List UInt8)) : Nat → List (List UInt8) → List (List UInt8) → Bool
  | 0, _, _ => false
  | _, [], text => text.isEmpty
  | fuel + 1, p :: ps, text =>
    if some p == escape then
      match ps, text with
      | q :: qs, t :: ts => likeSame exact q t && likeMatch exact escape fuel qs ts
      | _, _ => false
    else if p == [0x25] then
      likeMatch exact escape fuel ps text || (match text with
        | _ :: ts => likeMatch exact escape fuel (p :: ps) ts
        | [] => false)
    else match text with
      | t :: ts => (p == [0x5F] || likeSame exact p t) && likeMatch exact escape fuel ps ts
      | [] => false

/-- The characters a `GLOB` bracket class admits, and the rest of the pattern after it. -/
def globClass : List (List UInt8) → List (List UInt8) → Option (List (List UInt8) × List (List UInt8))
  | acc, [0x5D] :: rest => if acc.isEmpty then globClass [[0x5D]] rest else some (acc, rest)
  | acc, c :: rest => globClass (acc ++ [c]) rest
  | _, [] => none

/-- Whether a character is in a `GLOB` class, ranges `a-z` included. -/
def inGlobClass (c : List UInt8) : List (List UInt8) → Bool
  | a :: [0x2D] :: b :: rest =>
    (codePoint a ≤ codePoint c && codePoint c ≤ codePoint b) || inGlobClass c rest
  | a :: rest => a == c || inGlobClass c rest
  | [] => false

/-- Matches a `GLOB` pattern: `*` any run, `?` any character, `[...]` a class
(`^` first negates it), case exact. -/
def globMatch : Nat → List (List UInt8) → List (List UInt8) → Bool
  | 0, _, _ => false
  | _, [], text => text.isEmpty
  | fuel + 1, p :: ps, text =>
    if p == [0x2A] then
      globMatch fuel ps text || (match text with
        | _ :: ts => globMatch fuel (p :: ps) ts
        | [] => false)
    else match text with
      | [] => false
      | t :: ts =>
        if p == [0x3F] then globMatch fuel ps ts
        else if p == [0x5B] then
          let (negated, body) := match ps with
            | [0x5E] :: r => (true, r)
            | r => (false, r)
          match globClass [] body with
          | some (cls, rest) => (inGlobClass t cls != negated) && globMatch fuel rest ts
          | none => false
        else p == t && globMatch fuel ps ts

/-- Why a function could not give a value. -/
inductive FunctionFault where
  | unknown (name : String)
  | arity (name : String)
  | failed (message : String)

/-- The numbers of arguments each function takes: `none` for any number from `least`. -/
def functionArities (lower : String) : Option (List Nat ⊕ Nat) :=
  match lower with
  | "abs" | "hex" | "length" | "likely" | "lower" | "quote" | "sign" | "typeof" | "unicode" | "unlikely"
  | "upper" | "zeroblob" => some (.inl [1])
  | "ifnull" | "instr" | "likelihood" | "nullif" => some (.inl [2])
  | "iif" | "replace" => some (.inl [3])
  | "like" => some (.inl [2, 3])
  | "glob" => some (.inl [2])
  | "ltrim" | "rtrim" | "trim" | "round" => some (.inl [1, 2])
  | "substr" | "substring" => some (.inl [2, 3])
  | "sqlite_version" | "current_time" | "current_date" | "current_timestamp" => some (.inl [0])
  | "count" => some (.inl [0, 1])
  | "sum" | "total" | "avg" => some (.inl [1])
  | "group_concat" => some (.inl [1, 2])
  | "coalesce" => some (.inr 2)
  | "max" | "min" => some (.inr 1)
  | "char" | "date" | "time" | "datetime" | "julianday" | "unixepoch" | "strftime" | "printf"
  | "format" => some (.inr 0)
  | "unhex" => some (.inl [1, 2])
  | "soundex" | "sqlite_compileoption_used" | "sqlite_compileoption_get" | "randomblob" => some (.inl [1])
  | "random" | "sqlite_source_id" | "changes" | "total_changes" | "last_insert_rowid" => some (.inl [0])
  | _ => match documentArities lower with
    | some (some counts) => some (.inl counts)
    | some none => some (.inr 0)
    | none => (mathArities lower).map .inl

/-- Checks a call's function and number of arguments. -/
def checkCall (name : String) (count : Nat) : Except FunctionFault Unit :=
  match functionArities (Text.lowerAscii name) with
  | none => .error (.unknown name)
  | some (.inl counts) => if counts.contains count then .ok () else .error (.arity name)
  | some (.inr least) => if count ≥ least then .ok () else .error (.arity name)

/-- Trims the characters of a set from one or both ends. -/
def trimCharacters (left right : Bool) (set : List (List UInt8)) (cs : List (List UInt8)) : List (List UInt8) :=
  let cs := if left then cs.dropWhile set.contains else cs
  if right then (cs.reverse.dropWhile set.contains).reverse else cs

/-- The places `round` keeps: its argument cut to a 32-bit integer, then
held between 0 and 30. -/
def roundPlaces (digits : Int) : Nat :=
  let low := digits % Int.pow 2 32
  let signed := if low ≥ Int.pow 2 31 then low - Int.pow 2 32 else low
  (min (max signed 0) 30).toNat

/-- A real rounded to `places` places after the point. A value beyond 2^52 has
no fraction and stays; to no places it is rounded half away from zero through
an integer; otherwise it is written with that many places, the engine's
decimal rounding, and read back. -/
def roundReal (x : Float) (places : Nat) : Float :=
  if x < -4503599627370496.0 || x > 4503599627370496.0 then x
  else if places == 0 then Float.ofInt (realToInteger (x + (if x < 0 then -0.5 else 0.5)))
  else (readReal (bytesOf (formatReal .fixed places true x))).1

/-- The text `quote` gives a real: fifteen significant digits when they read
back as the same real, twenty digits in exponent form otherwise. -/
def quotedReal (x : Float) : List UInt8 :=
  let short := bytesOf (formatReal .significant 15 true x)
  if (readReal short).1 == x then short else bytesOf (formatReal .exponent 20 true x)

/-- Whether a byte is an ASCII hexadecimal digit. -/
def isHexDigit (b : UInt8) : Bool :=
  isDigit b || (0x41 ≤ b && b ≤ 0x46) || (0x61 ≤ b && b ≤ 0x66)

/-- The value of a hexadecimal digit. -/
def hexDigitValue (b : UInt8) : UInt8 :=
  if b ≤ 0x39 then b - 0x30 else (b &&& 0x0F) + 9

/-- The bytes of pairs of hexadecimal digits; a character outside the digits is
skipped when it is one of `pass`, and otherwise, like an unpaired digit, makes
the whole reading fail. -/
def unhexBytes (pass : List (List UInt8)) : List UInt8 → Option (List UInt8)
  | [] => some []
  | c :: rest =>
    if isHexDigit c then
      match rest with
      | d :: more => if isHexDigit d then (unhexBytes pass more).map ((hexDigitValue c * 16 + hexDigitValue d) :: ·) else none
      | [] => none
    else
      let ch := c :: rest.takeWhile isContinuation
      if c ≥ 0xC0 then
        if pass.contains ch then unhexBytes pass ((c :: rest).drop ch.length) else none
      else if pass.contains [c] then unhexBytes pass rest else none
termination_by bs => bs.length
decreasing_by all_goals (simp only [List.length_drop, List.length_cons]; omega)

/-- The sound class of a letter (the byte's low seven bits), 0 for vowels, `h`,
`w`, `y` and anything that is not a letter. -/
def soundClass (b : UInt8) : Nat :=
  match lowerByte (b &&& 0x7F) with
  | 0x62 | 0x66 | 0x70 | 0x76 => 1
  | 0x63 | 0x67 | 0x6A | 0x6B | 0x71 | 0x73 | 0x78 | 0x7A => 2
  | 0x64 | 0x74 => 3
  | 0x6C => 4
  | 0x6D | 0x6E => 5
  | 0x72 => 6
  | _ => 0

/-- Whether a byte is an ASCII letter. -/
def isLetter (b : UInt8) : Bool := (0x41 ≤ b && b ≤ 0x5A) || (0x61 ≤ b && b ≤ 0x7A)

/-- The digits of a soundex code after its first letter: each new nonzero class,
a repeated class counting only after a zero one, up to three digits. -/
def soundDigits : Nat → Nat → List UInt8 → List UInt8
  | 0, _, _ => []
  | _, _, [] => []
  | n + 1, previous, b :: rest =>
    let code := soundClass b
    if code > 0 then
      if code != previous then UInt8.ofNat (0x30 + code) :: soundDigits n code rest
      else soundDigits (n + 1) previous rest
    else soundDigits (n + 1) 0 rest
termination_by n _ bs => (bs.length, n)

/-- The soundex code of a text: its first ASCII letter in upper case and three
digits, padded with zeros; `?000` when it has no letter. -/
def soundex (bs : List UInt8) : List UInt8 :=
  match (beforeNul bs).dropWhile (fun b => !isLetter b) with
  | [] => bytesOf "?000"
  | first :: rest =>
    let digits := soundDigits 3 (soundClass first) rest
    upperByte first :: digits ++ List.replicate (3 - digits.length) 0x30

/-- The options the engine was built with, in the order it lists them. -/
def buildOptions : List String :=
  ["ATOMIC_INTRINSICS=1", "COMPILER=gcc-10.2.1 20210110", "DEFAULT_MEMSTATUS=0",
   "ENABLE_COLUMN_METADATA", "ENABLE_DBSTAT_VTAB", "ENABLE_FTS5", "ENABLE_GEOPOLY",
   "ENABLE_MATH_FUNCTIONS", "ENABLE_MEMORY_MANAGEMENT", "ENABLE_OFFSET_SQL_FUNC",
   "ENABLE_PREUPDATE_HOOK", "ENABLE_RBU", "ENABLE_RTREE", "ENABLE_SESSION", "ENABLE_SNAPSHOT",
   "ENABLE_STAT4", "ENABLE_UNLOCK_NOTIFY", "LIKE_DOESNT_MATCH_BLOBS", "MUTEX_NOOP", "SOUNDEX",
   "SYSTEM_MALLOC", "TEMP_STORE=1", "THREADSAFE=1"]

/-- Whether a byte can continue an identifier. -/
def isIdentifierByte (b : UInt8) : Bool :=
  isLetter b || isDigit b || b == 0x5F || b ≥ 0x80

/-- Whether an option name, with or without the leading `SQLITE_`, starts one of
the build options and ends where a name would. -/
def optionUsed (name : List UInt8) : Bool :=
  let name := beforeNul name
  let name := if (name.take 7).map upperByte == bytesOf "SQLITE_" then name.drop 7 else name
  buildOptions.any fun o =>
    let ob := bytesOf o
    (ob.take name.length).map lowerByte == name.map lowerByte && name.length ≤ ob.length
      && !(ob.drop name.length |>.head?.map isIdentifierByte |>.getD false)

/-- The version string of the engine's source. -/
def sourceIdentifier : String :=
  "2023-03-22 11:56:21 0d1fc92f94cb6b76bffe3ec34d69cffde2924203304e8ffc4155597af0c191da"

/-- The value of `like` (ASCII letters in any case unless `exact`) or of
`glob`: the pattern first, then the text, then for `like` the escape. -/
def patternValue (exact glob : Bool) (args : List Cell) : Except FunctionFault Cell :=
  let arg := fun (i : Nat) => args.getD i .null
  match arg 0, arg 1 with
  | .blob _, _ | _, .blob _ => .ok (.integer 0)
  | .null, _ => .ok .null
  | _, .null => .ok .null
  | p, x =>
    let pattern := characters p.textBytes
    let subject := characters x.textBytes
    let fuel := 2 * (pattern.length + 1) * (subject.length + 1)
    if glob then .ok (ofBool (globMatch fuel pattern subject))
    else if args.length > 2 then
      match arg 2 with
      | .null => .ok .null
      | e =>
        match characters e.textBytes with
        | [c] => .ok (ofBool (likeMatch exact (some c) fuel pattern subject))
        | _ => .error (.failed "ESCAPE expression must be a single character")
    else .ok (ofBool (likeMatch exact none fuel pattern subject))

/-- The value of a call of a known function. -/
def applyFunction (name : String) (args : List Cell) : Except FunctionFault Cell :=
  let arg := fun (i : Nat) => args.getD i .null
  let text := fun (c : Cell) => c.textBytes
  match Text.lowerAscii name with
  | "abs" =>
    match arg 0 with
    | .null => .ok .null
    | .integer n => if n == smallestInt then .error (.failed "integer overflow") else .ok (.integer n.natAbs)
    | c => .ok (.real c.realValue.abs)
  | "coalesce" | "ifnull" => .ok ((args.find? (!·.isNull)).getD .null)
  | "iif" => .ok (if (arg 0).truth == some true then arg 1 else arg 2)
  | "nullif" => .ok (if (arg 0).compare (arg 1) == .eq then .null else arg 0)
  | "likely" | "unlikely" | "likelihood" => .ok (arg 0)
  | "typeof" =>
    .ok (.text (bytesOf (match arg 0 with
      | .null => "null"
      | .integer _ => "integer"
      | .real _ => "real"
      | .text _ => "text"
      | .blob _ => "blob")))
  | "length" =>
    match arg 0 with
    | .null => .ok .null
    | .blob bs => .ok (.integer bs.length)
    | c => .ok (.integer (characters (beforeNul (text c))).length)
  | "lower" => .ok (if (arg 0).isNull then .null else .text ((text (arg 0)).map lowerByte))
  | "upper" => .ok (if (arg 0).isNull then .null else .text ((text (arg 0)).map upperByte))
  | "hex" => .ok (.text (hexText (text (arg 0))))
  | "quote" =>
    .ok (.text (match arg 0 with
      | .null => bytesOf "NULL"
      | .text bs => quoteSql bs
      | .blob bs => [0x58, 0x27] ++ hexText bs ++ [0x27]
      | .real x => quotedReal x
      | c => text c))
  | "zeroblob" => .ok (.blob (List.replicate (max (arg 0).intValue 0).toNat 0))
  | "unicode" =>
    match arg 0 with
    | .null => .ok .null
    | c => match characters (text c) with
      | ch :: _ => .ok (.integer (codePoint ch))
      | [] => .ok .null
  | "char" => .ok (.text (args.flatMap fun c => utf8Bytes (max c.intValue 0).toNat))
  | "sign" =>
    match arg 0 with
    | .null => .ok .null
    | .integer n => .ok (.integer n.sign)
    | .real x => .ok (.integer (if x > 0 then 1 else if x < 0 then -1 else 0))
    | c => match castTo .numeric c, (readReal (text c)).2 with
      | .integer n, .integer => .ok (.integer n.sign)
      | .real x, .real => .ok (.integer (if x > 0 then 1 else if x < 0 then -1 else 0))
      | _, _ => .ok .null
  | "instr" =>
    match arg 0, arg 1 with
    | .null, _ => .ok .null
    | _, .null => .ok .null
    | .blob h, .blob n =>
      .ok (.integer (findCharacters n (h.map fun b => [b])))
    | h, n => .ok (.integer (findCharacters (text n) (characters (text h))))
  | "replace" =>
    match arg 0, arg 1, arg 2 with
    | .null, _, _ => .ok .null
    | _, .null, _ => .ok .null
    | _, _, .null => .ok .null
    | x, p, r =>
      if (text p).isEmpty then .ok x else .ok (.text (replaceBytes (text p) (text r) (text x)))
  | "ltrim" | "rtrim" | "trim" =>
    let lower := Text.lowerAscii name
    match arg 0 with
    | .null => .ok .null
    | x =>
      let set := if args.length > 1 then characters (text (arg 1)) else [[0x20]]
      if args.length > 1 && (arg 1).isNull then .ok .null
      else .ok (.text (trimCharacters (lower != "rtrim") (lower != "ltrim") set (characters (text x))).flatten)
  | "substr" | "substring" =>
    match arg 0, arg 1 with
    | .null, _ => .ok .null
    | _, .null => .ok .null
    | x, s =>
      if args.length > 2 && (arg 2).isNull then .ok .null
      else
        let count := if args.length > 2 then some (arg 2).intValue else none
        match x with
        | .blob bs =>
          let (p, n) := substrRange bs.length s.intValue count
          .ok (.blob ((bs.drop p).take n))
        | _ =>
          let cs := characters (text x)
          let (p, n) := substrRange cs.length s.intValue count
          .ok (.text ((cs.drop p).take n).flatten)
  | "round" =>
    match arg 0 with
    | .null => .ok .null
    | x =>
      if args.length > 1 && (arg 1).isNull then .ok .null
      else .ok (.real (roundReal x.realValue (if args.length > 1 then roundPlaces (arg 1).intValue else 0)))
  | "max" | "min" =>
    if args.any Cell.isNull then .ok .null
    else
      let better := fun (a b : Cell) =>
        if Text.lowerAscii name == "max" then (if b.compare a == .gt then b else a)
        else (if b.compare a == .lt then b else a)
      .ok ((args.drop 1).foldl better (arg 0))
  | "like" => patternValue false false args
  | "glob" => patternValue false true args
  | "sqlite_version" => .ok (.text (bytesOf "3.41.2"))
  | "date" | "time" | "datetime" | "julianday" | "unixepoch" | "strftime" =>
    .ok (dateFunction (Text.lowerAscii name) args)
  | "printf" | "format" => .ok (formatFunction args)
  | "unhex" =>
    match arg 0 with
    | .null => .ok .null
    | h =>
      if args.length > 1 && (arg 1).isNull then .ok .null
      else
        let pass := if args.length > 1 then characters (beforeNul (text (arg 1))) else []
        .ok (match unhexBytes pass (beforeNul (text h)) with
          | some bs => .blob bs
          | none => .null)
  | "soundex" => .ok (.text (soundex (text (arg 0))))
  | "sqlite_compileoption_used" =>
    .ok (if (arg 0).isNull then .null else ofBool (optionUsed (text (arg 0))))
  | "sqlite_compileoption_get" =>
    let i := int32Of (arg 0).intValue
    .ok (if i < 0 then .null else match buildOptions[i.toNat]? with
      | some o => .text (bytesOf o)
      | none => .null)
  | "sqlite_source_id" => .ok (.text (bytesOf sourceIdentifier))
  | "randomblob" => .ok (.blob (List.replicate (max (arg 0).intValue 1).toNat 0))
  | "random" => .ok (.integer 0)
  | "current_timestamp" => .ok (dateFunction "datetime" [])
  | "current_date" => .ok (dateFunction "date" [])
  | "current_time" => .ok (dateFunction "time" [])
  | lower =>
    match mathFunction lower args with
    | some c => .ok c
    | none => .error (.unknown name)

end Airspace.Store
