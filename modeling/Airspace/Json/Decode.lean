import Airspace.Json.Syntax
import Airspace.Decimal.Read
import Airspace.Text.Case

/-!
# Reading JSON values into typed records

A document is read in two passes. First the whole text must be JSON: otherwise
the first fault of form is the answer. Then the value is read into the target
type, member by member in document order. Object keys name record fields
without regard to ASCII case (with `ſ` read as `s` and the Kelvin sign as `k`,
and no other character folded); when a key repeats, the last one wins; unknown
keys are skipped; `null` leaves a field as it was.

A value of the wrong kind for its field — a string for a number, a number too
large for binary64, a fraction for an integer — does not stop the reading: the
first such mismatch is kept, the field keeps its value, and the reading goes
on. A field's own reader may also refuse a value (a malformed time, say);
that ends the reading, and the document is answered with the first mismatch
met before it, else with the refusal.

A mismatch names what was found, where, and the type wanted:
`json: cannot unmarshal string into Go struct field Sample.latitude of type float64`.
The place is the record the document holds, if any, then each key as written
and each index on the way to the value.
-/

namespace Airspace.Json

/-- The kind of a value, as mismatches name it. -/
def Value.kind : Value → String
  | .null => "null"
  | .bool _ => "bool"
  | .number _ => "number"
  | .string _ => "string"
  | .array _ => "array"
  | .object _ => "object"

/-- One step into a document. -/
inductive Step where
  /-- A member of an object, by its key as the document writes it. -/
  | member (key : String)
  /-- An element of an array. -/
  | index (i : Nat)

/-- A key as a step of a path shows it: `~` as `~0` and `/` as `~1`. -/
def escapeKey (key : String) : String :=
  String.join (key.toList.map fun c => if c == '~' then "~0" else if c == '/' then "~1" else String.singleton c)

/-- The text of a step. -/
def Step.text : Step → String
  | .member k => escapeKey k
  | .index i => toString i

/-- Whether a step's text is a nonempty run of digits, as an index's is. -/
def Step.looksLikeIndex (s : Step) : Bool :=
  let t := s.text
  !t.isEmpty && t.all Char.isDigit

/-- A value of the wrong kind or range for its place. -/
structure TypeMismatch where
  /-- What was found: the kind, with the literal for a number out of range. -/
  found : String
  /-- The record the document holds; empty when it holds no record. -/
  record : String
  /-- The steps from the top of the document to the value. -/
  path : List Step
  /-- The type wanted there. -/
  target : String

/-- The text of a mismatch. The place is the record and the steps joined by
dots; it is called a struct field unless its last step looks like an index. -/
def TypeMismatch.message (m : TypeMismatch) : String :=
  let head := "json: cannot unmarshal " ++ m.found ++ " into "
  let tail := " of type " ++ m.target
  let field := ".".intercalate (m.path.map Step.text)
  if m.record.isEmpty && field.isEmpty then head ++ "Go value" ++ tail
  else
    let place := m.record ++ "." ++ field
    match m.path.getLast? with
    | some s => if s.looksLikeIndex then head ++ place ++ tail else head ++ "Go struct field " ++ place ++ tail
    | none => head ++ "Go struct field " ++ place ++ tail

/-- Why a document could not be read. -/
inductive DecodeError (ε : Type) where
  /-- The text is not JSON. -/
  | malformed (e : SyntaxError)
  /-- A value did not fit its place. -/
  | mismatch (m : TypeMismatch)
  /-- A field's reader refused its value. -/
  | refused (e : ε)

/-- Reading a value, keeping the first mismatch met; a refusal of type `ε` ends it. -/
abbrev Reader (ε : Type) := StateT (Option TypeMismatch) (Except (DecodeError ε))

/-- Records a mismatch unless one was met before. -/
def mismatch {ε : Type} (m : TypeMismatch) : Reader ε Unit :=
  modify fun seen => if seen.isSome then seen else some m

/-- Refuses a value: the reading ends with the first mismatch met so far, else
with the refusal. -/
def refuse {ε α : Type} (e : ε) : Reader ε α := do
  match ← get with
  | some m => throw (.mismatch m)
  | none => throw (.refused e)

/-- Runs a reader on a value: its result, else the first mismatch or the refusal. -/
def Reader.run' {ε α : Type} (r : Reader ε α) : Except (DecodeError ε) α :=
  match StateT.run r none with
  | .error e => .error e
  | .ok (a, none) => .ok a
  | .ok (_, some m) => .error (.mismatch m)

/-- Reads a whole document with a reader of its value. -/
def decode {ε α : Type} (bs : Bytes) (read : Value → Reader ε α) : Except (DecodeError ε) α :=
  match parse bs with
  | .error e => .error (.malformed e)
  | .ok v => (read v).run'

/-- Where a value sits: the record, the path and the type wanted. -/
structure Place where
  record : String
  path : List Step
  target : String

/-- A mismatch at a place. -/
def Place.mismatch {ε : Type} (p : Place) (found : String) : Reader ε Unit :=
  Json.mismatch ⟨found, p.record, p.path, p.target⟩

/-- Whether a key names a field: they agree without regard to case. -/
def keyMatches (key name : String) : Bool := Text.equalFold key name

/-- Reads a binary64 number; `null` gives nothing, as does a mismatch. -/
def readFloat {ε : Type} (p : Place) (v : Value) : Reader ε (Option Float) :=
  match v with
  | .null => pure none
  | .number lit =>
    match Decimal.Literal.ofJson? lit with
    | some l =>
      if l.outOfRange then do p.mismatch ("number " ++ lit); pure none
      else pure (some l.toFloat)
    | none => do p.mismatch ("number " ++ lit); pure none
  | v => do p.mismatch v.kind; pure none

/-- The integer written by a literal of digits with an optional minus sign, if
it is one and lies in the signed 64-bit range. -/
def integerLiteral? (lit : String) : Option Int :=
  let (negative, ds) := match lit.toList with
    | '-' :: r => (true, r)
    | r => (false, r)
  if ds.isEmpty || !ds.all Char.isDigit then none
  else
    let n : Int := Decimal.digitsValue ds
    let n := if negative then -n else n
    if n < -Int.pow 2 63 || n ≥ Int.pow 2 63 then none else some n

/-- Reads a signed 64-bit integer. -/
def readInt64 {ε : Type} (p : Place) (v : Value) : Reader ε (Option Int) :=
  match v with
  | .null => pure none
  | .number lit =>
    match integerLiteral? lit with
    | some n => pure (some n)
    | none => do p.mismatch ("number " ++ lit); pure none
  | v => do p.mismatch v.kind; pure none

/-- Reads an unsigned 64-bit integer. -/
def readUInt64 {ε : Type} (p : Place) (v : Value) : Reader ε (Option Nat) :=
  match v with
  | .null => pure none
  | .number lit =>
    let ds := lit.toList
    if !ds.isEmpty && ds.all Char.isDigit && Decimal.digitsValue ds < Nat.pow 2 64 then pure (some (Decimal.digitsValue ds))
    else do p.mismatch ("number " ++ lit); pure none
  | v => do p.mismatch v.kind; pure none

/-- Reads a string. -/
def readText {ε : Type} (p : Place) (v : Value) : Reader ε (Option String) :=
  match v with
  | .null => pure none
  | .string s => pure (some s)
  | v => do p.mismatch v.kind; pure none

mutual

/-- Checks the numbers inside a value of any type: each must fit binary64. -/
def checkNumbers {ε : Type} (record : String) : List Step → Value → Reader ε Unit
  | path, .number lit =>
    match Decimal.Literal.ofJson? lit with
    | some l => if l.outOfRange then Json.mismatch ⟨"number " ++ lit, record, path, "float64"⟩ else pure ()
    | none => Json.mismatch ⟨"number " ++ lit, record, path, "float64"⟩
  | path, .array items => checkItems record path 0 items
  | path, .object members => checkMembers record path members
  | _, _ => pure ()

/-- Checks the numbers inside array elements, from index `i` on. -/
def checkItems {ε : Type} (record : String) (path : List Step) : Nat → List Value → Reader ε Unit
  | _, [] => pure ()
  | i, v :: rest => do
    checkNumbers record (path ++ [.index i]) v
    checkItems record path (i + 1) rest

/-- Checks the numbers inside object members. -/
def checkMembers {ε : Type} (record : String) (path : List Step) :
    List (String × Value) → Reader ε Unit
  | [] => pure ()
  | (k, v) :: rest => do
    checkNumbers record (path ++ [.member k]) v
    checkMembers record path rest

end

end Airspace.Json
