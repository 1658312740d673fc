import Airspace.Store.Value

/-!
# JSON documents inside the store

The engine's JSON functions read a text into a tree that keeps every number,
string and label exactly as written: a document is written back by copying
those tokens, so `json('[1.50, "A"]')` is `[1.50,"A"]`, with only the
blanks between tokens gone. Reading is strict: no trailing commas, no leading
zeros, no bare point, no control character inside a string, nothing after the
value but blanks, and at most 2000 containers one inside another.

Edits do not rebuild the text; they change the tree:

* a node can be replaced by a value of the store (`value`), written the way the
  JSON functions write values — a real with fifteen significant digits, a
  text as a JSON string, a text that is itself JSON output as it is;
* an array element or an object member can be marked removed, and is then
  skipped when written and when an array is indexed — but an object label still
  finds it;
* a path that runs off the tree can add members and elements, an object for a
  `.label` step and an array for a `[0]` step.

A path is `$` followed by steps: `.label`, `."label"`, `[n]`, `[#]` (one past
the last element) and `[#-n]`. A step that cannot apply — a label of a
non-object, an index past the end — finds nothing; a step that cannot be read
is an error that names the rest of the path.
-/

namespace Airspace.Store

/-- The state of an element or member after edits. -/
inductive Mark where
  | live
  | removed
  /-- Its value was merged with a patch, which later keys of that patch leave alone. -/
  | patched
  deriving DecidableEq, Repr

/-- The label of an object member: a string token as written (quotes and
escapes included), or a label taken from a path, written with escapes. -/
inductive Label where
  | token (bytes : List UInt8)
  | plain (bytes : List UInt8)
  deriving DecidableEq, Repr

/-- A JSON document as the engine keeps it. -/
inductive Document where
  | null
  | boolean (b : Bool)
  /-- A number without a point or exponent, as written. -/
  | integer (token : List UInt8)
  /-- A number with a point or exponent, as written. -/
  | real (token : List UInt8)
  /-- A string token as written, and whether it has escapes. -/
  | string (token : List UInt8) (escaped : Bool)
  | array (items : List (Document × Mark))
  | object (members : List (Label × Document × Mark))
  /-- A value of the store put in by an edit, and whether it is JSON text. -/
  | value (c : Cell) (json : Bool)

/-- The most containers that may be open at once while reading. -/
def maxNesting : Nat := 2000

/-- The blanks of JSON text. -/
def isJsonSpace (b : UInt8) : Bool := b == 0x20 || b == 0x09 || b == 0x0A || b == 0x0D

/-- Whether a byte is an ASCII letter or digit. -/
def isAlphanumeric (b : UInt8) : Bool :=
  isDigit b || (0x41 ≤ b && b ≤ 0x5A) || (0x61 ≤ b && b ≤ 0x7A)

/-- Whether four hexadecimal digits start a text. -/
def fourHex (bs : List UInt8) : Bool :=
  bs.length ≥ 4 && (bs.take 4).all fun b =>
    isDigit b || (0x41 ≤ b && b ≤ 0x46) || (0x61 ≤ b && b ≤ 0x66)

/-- The body of a string token after its opening quote: the bytes up to and
including the closing quote, whether an escape was seen, and the rest; none
for a control character, a bad escape or a missing quote. -/
def stringBody : List UInt8 → Option (List UInt8 × Bool × List UInt8)
  | [] => none
  | c :: rest =>
    if c < 0x20 then none
    else if c == 0x22 then some ([c], false, rest)
    else if c == 0x5C then
      match rest with
      | e :: more =>
        if e == 0x22 || e == 0x5C || e == 0x2F || e == 0x62 || e == 0x66 || e == 0x6E || e == 0x72
            || e == 0x74 || (e == 0x75 && fourHex more) then
          (stringBody more).map fun (body, _, after) => (c :: e :: body, true, after)
        else none
      | [] => none
    else (stringBody rest).map fun (body, esc, after) => (c :: body, esc, after)

/-- The digits at the start of a text. -/
def leadingDigits (bs : List UInt8) : List UInt8 := bs.takeWhile isDigit

/-- A number token: digits with at most one point before at most one exponent,
no leading zero before another digit, and a digit last; and whether it has a
point or exponent. -/
def jsonNumber (bs : List UInt8) : Option (List UInt8 × Bool × List UInt8) :=
  let (sign, body) : List UInt8 × List UInt8 := match bs with
    | 0x2D :: rest => ([0x2D], rest)
    | _ => ([], bs)
  let whole := leadingDigits body
  if whole.isEmpty then none
  else if whole.length > 1 && whole.head? == some 0x30 then none
  else
    let rest := body.drop whole.length
    let (fraction, rest, pointed) : List UInt8 × List UInt8 × Bool := match rest with
      | 0x2E :: more =>
        let ds := leadingDigits more
        (0x2E :: ds, more.drop ds.length, true)
      | _ => ([], rest, false)
    if pointed && fraction.length = 1 then none
    else
      match rest with
      | e :: more =>
        if e == 0x65 || e == 0x45 then
          let (esign, more) : List UInt8 × List UInt8 := match more with
            | s :: m => if s == 0x2B || s == 0x2D then ([s], m) else ([], more)
            | [] => ([], more)
          let ds := leadingDigits more
          if ds.isEmpty then none
          else
            let after := more.drop ds.length
            -- a second point or exponent cannot follow
            match after with
            | a :: _ => if a == 0x2E || a == 0x65 || a == 0x45 then none
              else some (sign ++ whole ++ fraction ++ [e] ++ esign ++ ds, true, after)
            | [] => some (sign ++ whole ++ fraction ++ [e] ++ esign ++ ds, true, after)
        else if e == 0x2E then none
        else some (sign ++ whole ++ fraction, pointed, rest)
      | [] => some (sign ++ whole ++ fraction, pointed, rest)

/-- What reading a value meets: a value and the text after it, the end of the
enclosing object or array, or an error. -/
inductive DocumentReading where
  | value (d : Document) (rest : List UInt8)
  | closesObject
  | closesArray
  | failed

mutual

/-- Reads one value after optional blanks; `depth` containers are open. -/
def readDocument (fuel depth : Nat) (bs : List UInt8) : DocumentReading :=
  match fuel with
  | 0 => .failed
  | fuel + 1 =>
    let bs := bs.dropWhile isJsonSpace
    match bs with
    | [] => .failed
    | c :: rest =>
      if c == 0x7B then
        if depth + 1 > maxNesting then .failed
        else match readMembers fuel (depth + 1) [] rest with
          | some (ms, after) => .value (.object ms) after
          | none => .failed
      else if c == 0x5B then
        if depth + 1 > maxNesting then .failed
        else match readItems fuel (depth + 1) [] rest with
          | some (items, after) => .value (.array items) after
          | none => .failed
      else if c == 0x22 then
        match stringBody rest with
        | some (body, esc, after) => .value (.string (c :: body) esc) after
        | none => .failed
      else if c == 0x7D then .closesObject
      else if c == 0x5D then .closesArray
      else if c == 0x2D || isDigit c then
        match jsonNumber bs with
        | some (token, isReal, after) =>
          .value (if isReal then .real token else .integer token) after
        | none => .failed
      else
        let word := fun (w : String) (d : Document) =>
          let wb := bytesOf w
          if wb.isPrefixOf bs && !((bs.drop wb.length).head?.map isAlphanumeric |>.getD false) then
            DocumentReading.value d (bs.drop wb.length)
          else .failed
        if c == 0x74 then word "true" (.boolean true)
        else if c == 0x66 then word "false" (.boolean false)
        else if c == 0x6E then word "null" .null
        else .failed

/-- Reads the elements of an array after its bracket (or after a comma). -/
def readItems (fuel depth : Nat) (acc : List (Document × Mark)) (bs : List UInt8) :
    Option (List (Document × Mark) × List UInt8) :=
  match fuel with
  | 0 => none
  | fuel + 1 =>
    match readDocument fuel depth bs with
    | .closesArray => if acc.isEmpty then some ([], (bs.dropWhile isJsonSpace).drop 1) else none
    | .value d rest =>
      match rest.dropWhile isJsonSpace with
      | 0x2C :: more => readItems fuel depth (acc ++ [(d, .live)]) more
      | 0x5D :: more => some (acc ++ [(d, .live)], more)
      | _ => none
    | _ => none

/-- Reads the members of an object after its brace (or after a comma). -/
def readMembers (fuel depth : Nat) (acc : List (Label × Document × Mark)) (bs : List UInt8) :
    Option (List (Label × Document × Mark) × List UInt8) :=
  match fuel with
  | 0 => none
  | fuel + 1 =>
    match readDocument fuel depth bs with
    | .closesObject => if acc.isEmpty then some ([], (bs.dropWhile isJsonSpace).drop 1) else none
    | .value (.string token _) rest =>
      match rest.dropWhile isJsonSpace with
      | 0x3A :: more =>
        match readDocument fuel depth more with
        | .value d after =>
          match after.dropWhile isJsonSpace with
          | 0x2C :: next => readMembers fuel depth (acc ++ [(.token token, d, .live)]) next
          | 0x7D :: next => some (acc ++ [(.token token, d, .live)], next)
          | _ => none
        | _ => none
      | _ => none
    | _ => none

end

/-- Reads a whole text as a document: one value and nothing after it but blanks. -/
def Document.read? (bs : List UInt8) : Option Document :=
  match readDocument (2 * bs.length + 2) 0 bs with
  | .value d rest => if (rest.dropWhile isJsonSpace).isEmpty then some d else none
  | _ => none

/-- A text as a JSON string: quotes around it, `"` and `\` escaped, and the
control characters as `\b`, `\t`, `\n`, `\f`, `\r` or `\u00XX`. -/
def jsonString (bs : List UInt8) : List UInt8 :=
  let hex := fun (n : Nat) => if n < 10 then UInt8.ofNat (0x30 + n) else UInt8.ofNat (0x61 + n - 10)
  let escape := fun (c : UInt8) =>
    if c == 0x22 || c == 0x5C then [0x5C, c]
    else if c == 0x08 then [0x5C, 0x62]
    else if c == 0x09 then [0x5C, 0x74]
    else if c == 0x0A then [0x5C, 0x6E]
    else if c == 0x0C then [0x5C, 0x66]
    else if c == 0x0D then [0x5C, 0x72]
    else if c < 0x20 then [0x5C, 0x75, 0x30, 0x30, hex (c.toNat / 16), hex (c.toNat % 16)]
    else [c]
  0x22 :: bs.flatMap escape ++ [0x22]

/-- Why a JSON function fails. -/
inductive DocumentFault where
  | malformed
  | blob
  | path (rest : List UInt8)
  | message (text : String)

/-- The engine's message for a fault. -/
def DocumentFault.text : DocumentFault → String
  | .malformed => "malformed JSON"
  | .blob => "JSON cannot hold BLOB values"
  | .path rest => "JSON path error near '" ++ Text.toText (rest.flatMap fun b => if b == 0x27 then [b, b] else [b]) ++ "'"
  | .message m => m

/-- A value of the store as JSON text: null, an integer's digits, a real with
fifteen significant digits, a text as a string unless it is JSON already; a
blob cannot be written. -/
def jsonOfCell (c : Cell) (json : Bool) : Except DocumentFault (List UInt8) :=
  match c with
  | .null => .ok (bytesOf "null")
  | .integer n => .ok (bytesOf (toString n))
  | .real x => .ok (bytesOf (formatReal .significant 15 true x))
  | .text bs => .ok (if json then bs else jsonString bs)
  | .blob _ => .error .blob

/-- Items joined by commas. -/
def joinedByCommas (parts : List (List UInt8)) : List UInt8 :=
  match parts with
  | [] => []
  | p :: ps => p ++ ps.flatMap (0x2C :: ·)

mutual

/-- The text of a document, without blanks; removed parts are left out. -/
def Document.render : Document → Except DocumentFault (List UInt8)
  | .null => .ok (bytesOf "null")
  | .boolean b => .ok (bytesOf (if b then "true" else "false"))
  | .integer t | .real t | .string t _ => .ok t
  | .array items => do
    let parts ← renderItems items
    return 0x5B :: joinedByCommas parts ++ [0x5D]
  | .object members => do
    let parts ← renderMembers members
    return 0x7B :: joinedByCommas parts ++ [0x7D]
  | .value c json => jsonOfCell c json

/-- The texts of the elements that are not removed. -/
def renderItems : List (Document × Mark) → Except DocumentFault (List (List UInt8))
  | [] => .ok []
  | (d, m) :: rest => do
    let more ← renderItems rest
    if m == .removed then return more
    let t ← d.render
    return t :: more

/-- The texts `label:value` of the members that are not removed. -/
def renderMembers : List (Label × Document × Mark) → Except DocumentFault (List (List UInt8))
  | [] => .ok []
  | (l, d, m) :: rest => do
    let more ← renderMembers rest
    if m == .removed then return more
    let t ← d.render
    let label := match l with
      | .token bs => bs
      | .plain bs => jsonString bs
    return (label ++ 0x3A :: t) :: more

end

/-- Whether a member's label is a key of a path. -/
def Label.isKey (l : Label) (key : List UInt8) : Bool :=
  match l with
  | .token bs => bs.length == key.length + 2 && (bs.drop 1).take key.length == key
  | .plain bs => bs == key

/-- The key of a `.` step and the path after it: up to the next `.` or `[`,
or between double quotes. -/
def readKey (path : List UInt8) : Except DocumentFault (List UInt8 × List UInt8) :=
  match path with
  | 0x22 :: rest =>
    let key := rest.takeWhile (· != 0x22)
    match rest.drop key.length with
    | 0x22 :: after => .ok (key, after)
    | _ => .error (.path path)
  | _ =>
    let key := path.takeWhile fun b => b != 0x2E && b != 0x5B
    if key.isEmpty then .error (.path path) else .ok (key, path.drop key.length)

/-- An index step as read: a number, or a count back from one past the last
element (with the text where its closing bracket should be). -/
inductive IndexStep where
  | plain (i : Nat) (rest : List UInt8)
  | fromEnd (back : Nat) (tail : List UInt8)

/-- Reads a `[` step. -/
def readIndex (path : List UInt8) : Except DocumentFault IndexStep :=
  let inner := path.drop 1
  let ds := leadingDigits inner
  match inner.drop ds.length with
  | 0x5D :: rest =>
    if ds.isEmpty then .error (.path path)
    else .ok (.plain (ds.foldl (fun n d => n * 10 + digitValue d) 0) rest)
  | _ =>
    match inner with
    | 0x23 :: more =>
      match more with
      | 0x2D :: d :: _ =>
        if isDigit d then
          let back := leadingDigits (more.drop 1)
          .ok (.fromEnd (back.foldl (fun n d => n * 10 + digitValue d) 0) (more.drop (1 + back.length)))
        else .ok (.fromEnd 0 more)
      | _ => .ok (.fromEnd 0 more)
    | _ => .error (.path path)

/-- The number of elements that are not removed. -/
def liveCount (items : List (Document × Mark)) : Nat := (items.filter (·.2 != .removed)).length

/-- The place in the list of the element with `i` live elements before it that is itself live. -/
def livePlace (items : List (Document × Mark)) (i : Nat) : Option Nat :=
  let live := (List.range items.length).filter fun k => (items.getD k (.null, .live)).2 != .removed
  live[i]?

/-- The node a path reaches, if any. -/
def Document.find : Nat → Document → List UInt8 → Except DocumentFault (Option Document)
  | 0, _, _ => .ok none
  | fuel + 1, d, path =>
    match path, d with
    | [], _ => .ok (some d)
    | _, .value _ _ => .ok none
    | 0x2E :: rest, .object ms => do
      let (key, after) ← readKey rest
      match ms.find? (fun (l, _, _) => l.isKey key) with
      | some (_, v, _) => v.find fuel after
      | none => .ok none
    | 0x2E :: _, _ => .ok none
    | 0x5B :: _, _ => do
      let step ← readIndex path
      match step, d with
      | .plain i after, .array items =>
        match livePlace items i with
        | some k => (items.getD k (.null, .live)).1.find fuel after
        | none => .ok none
      | .fromEnd back tail, .array items =>
        let n := liveCount items
        if back > n then .ok none
        else match tail with
          | 0x5D :: after =>
            match livePlace items (n - back) with
            | some k => (items.getD k (.null, .live)).1.find fuel after
            | none => .ok none
          | _ => .error (.path path)
      | _, _ => .ok none
    | _, _ => .error (.path path)

/-- What an edit does at the node its path reaches. -/
inductive Edit where
  | keep
  | put (d : Document)
  | drop

mutual

/-- Follows a path and applies an action to the node it reaches (told whether
that node was just added); with `grow`, missing members and elements are
added on the way. The result says how the parent changes. -/
def Document.alter (act : Bool → Edit) (grow : Bool) : Nat → Document → List UInt8 → Except DocumentFault Edit
  | 0, _, _ => .ok .keep
  | fuel + 1, d, path =>
    match path, d with
    | [], _ => .ok (act false)
    | _, .value _ _ => .ok .keep
    | 0x2E :: rest, .object ms => do
      let (key, after) ← readKey rest
      match ms.findIdx? (fun (l, _, _) => l.isKey key) with
      | some k =>
        let (l, v, m) := ms.getD k (.plain [], .null, .live)
        match ← v.alter act grow fuel after with
        | .keep => return .keep
        | .put v' => return .put (.object (ms.set k (l, v', m)))
        | .drop => return .put (.object (ms.set k (l, v, .removed)))
      | none =>
        if !grow then return .keep
        match ← growPath act fuel after with
        | some v => return .put (.object (ms ++ [(.plain key, v, .live)]))
        | none => return .keep
    | 0x2E :: _, _ => .ok .keep
    | 0x5B :: _, _ => do
      let step ← readIndex path
      let target : Option (Nat × List UInt8) ← match step, d with
        | .plain i after, .array _ => pure (some (i, after))
        | .fromEnd back tail, .array items =>
          let n := liveCount items
          if back > n then pure none
          else match tail with
            | 0x5D :: after => pure (some (n - back, after))
            | _ => throw (.path path)
        | _, _ => pure none
      match target, d with
      | some (i, after), .array items =>
        match livePlace items i with
        | some k =>
          let (v, m) := items.getD k (.null, .live)
          match ← v.alter act grow fuel after with
          | .keep => return .keep
          | .put v' => return .put (.array (items.set k (v', m)))
          | .drop => return .put (.array (items.set k (v, .removed)))
        | none =>
          if !grow || i != liveCount items then return .keep
          match ← growPath act fuel after with
          | some v => return .put (.array (items ++ [(v, .live)]))
          | none => return .keep
      | _, _ => return .keep
    | _, _ => .error (.path path)

/-- The nodes a path adds past the end of a document: nothing left of the path
is the node itself (the action's new node), a `.` step starts an object and a
`[0]` step an array; any other step adds nothing. -/
def growPath (act : Bool → Edit) : Nat → List UInt8 → Except DocumentFault (Option Document)
  | 0, _ => .ok none
  | fuel + 1, path =>
    match path with
    | [] => .ok (match act true with
      | .put v => some v
      | _ => some .null)
    | 0x2E :: _ => do
      match ← (Document.object []).alter act true fuel path with
      | .put v => return some v
      | _ => return none
    | 0x5B :: 0x30 :: 0x5D :: _ => do
      match ← (Document.array []).alter act true fuel path with
      | .put v => return some v
      | _ => return none
    | _ => .ok none

end

/-- A document with its root possibly removed, as the editing functions keep it. -/
structure Edited where
  root : Document
  removed : Bool := false

/-- Applies an action at the end of a path of an edited document; a path must
start with `$`. -/
def Edited.apply (e : Edited) (path : List UInt8) (act : Bool → Edit) (grow : Bool) :
    Except DocumentFault Edited :=
  match path with
  | 0x24 :: rest => do
    match ← e.root.alter act grow (2 * rest.length + 2) rest with
    | .keep => return e
    | .put d => return { e with root := d }
    | .drop => return { e with removed := true }
  | _ => .error (.path path)

/-- The node a path (starting with `$`) reaches in a document, if any. -/
def Document.lookup (d : Document) (path : List UInt8) : Except DocumentFault (Option Document) :=
  match path with
  | 0x24 :: rest => d.find (2 * rest.length + 2) rest
  | _ => .error (.path path)

mutual

/-- An object with the members whose value is null removed, in nested objects too. -/
def Document.withoutNulls : Document → Document
  | .object ms => .object (membersWithoutNulls ms)
  | d => d

/-- Members with null values removed, nested objects cleaned in turn. -/
def membersWithoutNulls : List (Label × Document × Mark) → List (Label × Document × Mark)
  | [] => []
  | (l, .null, _) :: rest => (l, .null, .removed) :: membersWithoutNulls rest
  | (l, .object inner, m) :: rest => (l, .object (membersWithoutNulls inner), m) :: membersWithoutNulls rest
  | member :: rest => member :: membersWithoutNulls rest

end

/-- The raw bytes of a label, as a merge compares them. -/
def Label.bytes : Label → List UInt8
  | .token bs | .plain bs => bs

mutual

/-- Merges a patch into a document: a patch that is not an object replaces it,
an object patch on a non-object is the patch without nulls, and otherwise each
member of the patch removes (when null), merges into or adds a member — only
the first member of the document with that label counts, and one already
removed or merged is left alone. -/
def Document.mergePatch (fuel : Nat) (target patch : Document) : Document :=
  match fuel with
  | 0 => target
  | fuel + 1 =>
    match patch, target with
    | .object pms, .object tms =>
      let (own, added) := mergeMembers fuel tms.length tms pms
      .object (own ++ added)
    | .object _, _ => patch.withoutNulls
    | _, _ => patch

/-- Applies patch members in turn to the first `count` members (the document's
own), collecting the members to add. -/
def mergeMembers (fuel count : Nat) (tms : List (Label × Document × Mark)) :
    List (Label × Document × Mark) → List (Label × Document × Mark) × List (Label × Document × Mark)
  | [] => (tms, [])
  | (l, pv, _) :: rest =>
    match fuel with
    | 0 => (tms, [])
    | fuel + 1 =>
      let key := l.bytes
      let found := ((tms.take count).findIdx? fun (tl, _, _) => tl.bytes == key)
      let (tms, add) : List (Label × Document × Mark) × List (Label × Document × Mark) :=
        match found with
        | some k =>
          let (tl, tv, tm) := tms.getD k (.plain [], .null, .live)
          if tm != .live then (tms, [])
          else match pv with
            | .null => (tms.set k (tl, tv, .removed), [])
            | _ => (tms.set k (tl, Document.mergePatch fuel tv pv, .patched), [])
        | none =>
          match pv with
          | .null => (tms, [])
          | _ => (tms, [(l, pv.withoutNulls, .live)])
      let (tms, more) := mergeMembers fuel count tms rest
      (tms, add ++ more)

end

/-- The value the JSON functions give for a node: null, 1 and 0 for true and
false, an integer (a real when it does not fit), a real, a string's text with
its escapes resolved, and an array or object as its text. -/
def Document.toCell (d : Document) : Except DocumentFault (Cell × Bool) :=
  match d with
  | .null => .ok (.null, false)
  | .boolean b => .ok (.integer (if b then 1 else 0), false)
  | .integer t =>
    let (negative, digits) := match t with
      | 0x2D :: ds => (true, ds)
      | ds => (false, ds)
    let n : Nat := digits.foldl (fun n d => n * 10 + digitValue d) 0
    if negative && n = Int.toNat (-smallestInt) then .ok (.integer smallestInt, false)
    else if n ≤ largestInt.toNat then .ok (.integer (if negative then -(n : Int) else n), false)
    else .ok (.real (readReal t).1, false)
  | .real t =>
    let x := (readReal t).1
    .ok (if x.isNaN then .null else .real x, false)
  | .string t esc =>
    let body := (t.drop 1).dropLast
    .ok (.text (if esc then unescapeJson body else body), false)
  | .value c json => .ok (c, json)
  | d => do
    let t ← d.render
    return (.text t, true)
where
  /-- The text of a string body with its escapes resolved; `\u0000` ends it. -/
  unescapeJson (bs : List UInt8) : List UInt8 := resolve (bs.length + 1) bs
  resolve : Nat → List UInt8 → List UInt8
    | 0, _ => []
    | _, [] => []
    | fuel + 1, c :: rest =>
      if c != 0x5C then c :: resolve fuel rest
      else match rest with
        | 0x75 :: more =>
          let v := hexValue (more.take 4)
          let more := more.drop 4
          if v = 0 then []
          else if v ≤ 0x7F then UInt8.ofNat v :: resolve fuel more
          else if v ≤ 0x7FF then
            UInt8.ofNat (0xC0 + v / 64) :: UInt8.ofNat (0x80 + v % 64) :: resolve fuel more
          else
            let low := match more with
              | 0x5C :: 0x75 :: h => if h.length ≥ 4 then some (hexValue (h.take 4)) else none
              | _ => none
            match low with
            | some lo =>
              if v / 1024 = 0x36 && lo / 1024 = 0x37 then
                let w := (v % 1024) * 1024 + lo % 1024 + 0x10000
                UInt8.ofNat (0xF0 + w / 262144) :: UInt8.ofNat (0x80 + w / 4096 % 64)
                  :: UInt8.ofNat (0x80 + w / 64 % 64) :: UInt8.ofNat (0x80 + w % 64) :: resolve fuel (more.drop 6)
              else threeBytes v ++ resolve fuel more
            | none => threeBytes v ++ resolve fuel more
        | e :: more =>
          let out : UInt8 :=
            if e == 0x62 then 0x08 else if e == 0x66 then 0x0C else if e == 0x6E then 0x0A
            else if e == 0x72 then 0x0D else if e == 0x74 then 0x09 else e
          out :: resolve fuel more
        | [] => []
  hexValue (bs : List UInt8) : Nat :=
    bs.foldl (fun n b => n * 16 + (if b ≤ 0x39 then b.toNat - 0x30 else (b.toNat &&& 0x0F) + 9)) 0
  threeBytes (v : Nat) : List UInt8 :=
    [UInt8.ofNat (0xE0 + v / 4096 % 16), UInt8.ofNat (0x80 + v / 64 % 64), UInt8.ofNat (0x80 + v % 64)]

/-- The engine's name of a node's kind. -/
def Document.kind : Document → String
  | .null => "null"
  | .boolean true => "true"
  | .boolean false => "false"
  | .integer _ => "integer"
  | .real _ => "real"
  | .string _ _ => "text"
  | .array _ => "array"
  | .object _ => "object"
  | .value _ _ => "null"

end Airspace.Store
