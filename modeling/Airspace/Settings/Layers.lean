import Airspace.Json.Value
import Airspace.Text.Case

/-!
# Layered settings

A setting is named by a dotted key, matched without regard to case; each part
of the key names a member of a nested object. Its value comes from the first
of three layers that has one:

1. an environment variable bound to the whole key, if it is set and not empty;
2. the settings file;
3. the program's defaults.

In the file, the key may also be spelled as one member holding dots: the
longest leading run of key parts that names a member is taken first, and the
remaining parts are looked up inside it (arrays are indexed by number; an
index below zero is a failure). A `null` counts as no value. Keys that agree
in lower case are folded into one, the member written with capitals winning.

A layer also hides what lies below it: a key is hidden when a proper prefix of
it is bound to an environment variable (set or not), or names a value in the
file that is not an object. A hidden key has no value at all.
-/

namespace Airspace.Settings

open Airspace.Json

/-- The parts of a key, in lower case. -/
def keyPath (key : String) : List String := (Text.lower key).splitOn "."

/-- Keeps the last member of each key, at the place of its first. -/
def lastOfEachKey (ms : List (String × Value)) : List (String × Value) :=
  (ms.map Prod.fst).eraseDups.filterMap fun k => (ms.reverse.find? (·.1 == k)).map fun m => (k, m.2)

/-- Folds members whose keys agree in lower case into one, under the lower-case
key. A member whose key was written with capitals wins over one written in
lower case, whichever comes first (of several such, the last); the members are
given with their keys as written, each key once. -/
def foldCase (ms : List (String × Value)) : List (String × Value) :=
  let lowered := ms.map fun (k, v) => (Text.lower k, k, v)
  (lowered.map (·.1)).eraseDups.filterMap fun key =>
    let same := lowered.filter (·.1 == key)
    let chosen := match (same.filter fun (l, k, _) => k != l).getLast? with
      | some m => some m
      | none => same.getLast?
    chosen.map fun (_, _, v) => (key, v)

/-- Lower-cases every object key, inside arrays too. Of members with the same
key the last is kept, and then keys that agree in lower case are folded by
`foldCase`. -/
def lowerKeys : Value → Value
  | .object ms => .object (foldCase (lastOfEachKey (ms.attach.map fun ⟨(k, v), _⟩ => (k, lowerKeys v))))
  | .array vs => .array (vs.attach.map fun ⟨v, _⟩ => lowerKeys v)
  | v => v
decreasing_by
  all_goals
    have h := List.sizeOf_lt_of_mem ‹_ ∈ _›
    simp only [Prod.mk.sizeOf_spec, Value.object.sizeOf_spec, Value.array.sizeOf_spec] at *
    omega

/-- The member of an object; `null` counts as absent. -/
def member? (v : Value) (k : String) : Option Value :=
  match v with
  | .object ms =>
    match (ms.find? (·.1 == k)).map Prod.snd with
    | some .null => none
    | m => m
  | _ => none

/-- Whether a value is an object. -/
def isObject : Value → Bool
  | .object _ => true
  | _ => false

/-- Follows a path through nested objects, one member per part. -/
def descend : Value → List String → Option Value
  | v, [] => some v
  | v, [k] => member? v k
  | v, k :: rest =>
    match member? v k with
    | some next => if isObject next then descend next rest else none
    | none => none

/-- An array indexed below zero, which ends the lookup with a failure. -/
structure NegativeIndex where
  /-- The magnitude of the index. -/
  magnitude : Nat

/-- The failure's message. -/
def NegativeIndex.message (e : NegativeIndex) : String :=
  "runtime error: index out of range [-" ++ toString e.magnitude ++ "]"

/-- A part of a key read as a signed 64-bit decimal index: a sign, then digits. -/
def indexOf? (k : String) : Option Int :=
  let (negative, ds) : Bool × List Char := match k.toList with
    | '+' :: ds => (false, ds)
    | '-' :: ds => (true, ds)
    | ds => (false, ds)
  if ds.isEmpty || !ds.all Char.isDigit then none
  else
    let n := (String.ofList ds).toNat!
    if negative then (if n ≤ Nat.pow 2 63 then some (-(n : Int)) else none)
    else if n < Nat.pow 2 63 then some n else none

/-- The element of an array at an index written in decimal; an index below
zero is a failure. -/
def element? (v : Value) (k : String) : Except NegativeIndex (Option Value) :=
  match v, indexOf? k with
  | .array vs, some i =>
    if i < 0 then .error ⟨i.natAbs⟩
    else match vs[i.toNat]? with
      | some .null => .ok none
      | e => .ok e
  | _, _ => .ok none

/-- Whether a value can be looked into: an object or an array. -/
def isIndexable : Value → Bool
  | .object _ | .array _ => true
  | _ => false

/-- Looks a path up, taking the longest leading run of parts that names a
member or element first; `fuel` bounds the depth, and the number of parts is
enough. -/
def searchPrefixes : Nat → Value → List String → Except NegativeIndex (Option Value)
  | _, v, [] => .ok (some v)
  | 0, _, _ => .ok none
  | fuel + 1, v, path =>
    let attempt := fun (i : Nat) => do
      let key := ".".intercalate (path.take i)
      let found ← match v with
        | .array _ => element? v key
        | _ => pure (member? v key)
      match found with
      | none => pure none
      | some next =>
        if i = path.length then pure (some next)
        else if isIndexable next then searchPrefixes fuel next (path.drop i)
        else pure none
    firstFound attempt ((List.range path.length).reverse.map (· + 1))
where
  /-- The first attempt, in order, that finds something; a failure ends the search. -/
  firstFound (attempt : Nat → Except NegativeIndex (Option Value)) :
      List Nat → Except NegativeIndex (Option Value)
    | [] => .ok none
    | i :: rest => do
      match ← attempt i with
      | some v => pure (some v)
      | none => firstFound attempt rest

/-- Whether some proper prefix of a path satisfies `p`. -/
def shadowingPrefix (path : List String) (p : List String → Bool) : Bool :=
  (List.range (path.length - 1)).any fun j => p (path.take (j + 1))

/-- The sources of settings. -/
structure Layers where
  /-- Keys bound to environment variables, in lower case. -/
  bindings : List (String × String)
  /-- The environment variables that are set. -/
  environment : List (String × String)
  /-- The settings file, its keys in lower case; an empty object when there is none. -/
  file : Value := .object []
  /-- The defaults, as nested objects with lower-case keys. -/
  defaults : Value

/-- The value of the environment variable bound to a key, if set and not empty. -/
def Layers.fromEnvironment (l : Layers) (key : String) : Option Value :=
  (l.bindings.filter (·.1 == key)).findSome? fun (_, var) =>
    match (l.environment.reverse.find? (·.1 == var)).map Prod.snd with
    | some v => if v.isEmpty then none else some (.string v)
    | none => none

/-- The value of a key, or none when no layer has one or the key is hidden;
looking into an array below index zero fails. -/
def Layers.lookup (l : Layers) (key : String) : Except NegativeIndex (Option Value) :=
  let key := Text.lower key
  let path := key.splitOn "."
  match l.fromEnvironment key with
  | some v => .ok (some v)
  | none =>
    if shadowingPrefix path fun pre => l.bindings.any (·.1 == ".".intercalate pre) then .ok none
    else do
      match ← searchPrefixes path.length l.file path with
      | some v => pure (some v)
      | none =>
        let hiddenByFile := shadowingPrefix path fun pre =>
          match descend l.file pre with
          | some v => !isObject v
          | none => false
        pure (if hiddenByFile then none else descend l.defaults path)

/-- The value of a key, or none when no layer has one, the key is hidden, or
the lookup fails. -/
def Layers.find (l : Layers) (key : String) : Option Value :=
  match l.lookup key with
  | .ok v => v
  | .error _ => none

end Airspace.Settings
