import Airspace.Store.Document

/-!
# The JSON functions

Each JSON function takes its arguments together with whether each is JSON
text made by another JSON function: such a text goes into a new document as it
is, while any other text becomes a JSON string. What they give back carries the
same mark, so that `json_array(json('[1]'))` is `[[1]]` but
`json_array('[1]')` is `["[1]"]`.

A document argument that is null makes the result null, and one that does not
read as JSON fails the call with `malformed JSON`. A null path finds nothing.
The `->` and `->>` operators take a path without its `$`: a number is an
index and anything else a label.
-/

namespace Airspace.Store

/-- The document of a function's first argument; none for null. -/
def documentOf (c : Cell) : Except DocumentFault (Option Document) :=
  match c with
  | .null => .ok none
  | c => match Document.read? (beforeNul c.textBytes) with
    | some d => .ok (some d)
    | none => .error .malformed

/-- The text of a path argument; none for null. -/
def pathOf (c : Cell) : Option (List UInt8) :=
  match c with
  | .null => none
  | c => some (beforeNul c.textBytes)

/-- A document's text as a JSON result. -/
def documentResult (d : Document) : Except DocumentFault (Cell × Bool) := do
  let t ← d.render
  return (.text t, true)

/-- The texts of values put into an array or object, in order; the first blob fails. -/
def valueTexts (args : List (Cell × Bool)) : Except DocumentFault (List (List UInt8)) :=
  args.mapM fun (c, json) => jsonOfCell c json

/-- `json_array`: the values as an array. -/
def arrayFunction (args : List (Cell × Bool)) : Except DocumentFault (Cell × Bool) := do
  let parts ← valueTexts args
  return (.text (0x5B :: joinedByCommas parts ++ [0x5D]), true)

/-- The members of `json_object`, pair by pair: a label that is not a text
fails the call at once, a blob value only once all labels are seen. -/
def objectMembers : List (Cell × Bool) → Except DocumentFault (List (List UInt8) × Bool)
  | (label, _) :: (v, json) :: rest =>
    match label with
    | .text bs => do
      let (more, blob) ← objectMembers rest
      match jsonOfCell v json with
      | .ok t => return ((jsonString bs ++ 0x3A :: t) :: more, blob)
      | .error _ => return (more, true)
    | _ => .error (.message "json_object() labels must be TEXT")
  | _ => .ok ([], false)

/-- `json_object`: labels and values alternating, as an object. -/
def objectFunction (args : List (Cell × Bool)) : Except DocumentFault (Cell × Bool) :=
  if args.length % 2 = 1 then .error (.message "json_object() requires an even number of arguments")
  else do
    let (parts, blob) ← objectMembers args
    if blob then throw .blob
    return (.text (0x7B :: joinedByCommas parts ++ [0x7D]), true)

/-- A path of the arrow operators with the `$` it may lack. -/
def abbreviatedPath (p : List UInt8) : List UInt8 :=
  match p with
  | 0x24 :: rest =>
    match rest with
    | [] | 0x2E :: _ | 0x5B :: _ => p
    | _ => 0x24 :: 0x2E :: p
  | c :: _ =>
    if isDigit c then 0x24 :: 0x5B :: p ++ [0x5D]
    else if c == 0x5B then 0x24 :: p
    else 0x24 :: 0x2E :: p
  | [] => [0x24, 0x2E]

/-- `json_extract`: one path gives its node's value, several an array of
their nodes (null for a node not found). -/
def extractFunction (args : List (Cell × Bool)) : Except DocumentFault (Cell × Bool) :=
  match args with
  | (j, _) :: p :: more => do
    match ← documentOf j with
    | none => return (.null, false)
    | some d =>
      if more.isEmpty then
        match pathOf p.1 with
        | none => return (.null, false)
        | some path =>
          match ← d.lookup path with
          | some n => n.toCell
          | none => return (.null, false)
      else
        let parts ← (p :: more).mapM fun (c, _) => do
          match pathOf c with
          | none => pure (bytesOf "null")
          | some path =>
            match ← d.lookup path with
            | some n => n.render
            | none => pure (bytesOf "null")
        return (.text (0x5B :: joinedByCommas parts ++ [0x5D]), true)
  | _ => .ok (.null, false)

/-- The arrow operators: `->` gives the node as JSON text, `->>` as a value. -/
def arrowFunction (asJson : Bool) (j p : Cell) : Except DocumentFault (Cell × Bool) := do
  match ← documentOf j with
  | none => return (.null, false)
  | some d =>
    match pathOf p with
    | none => return (.null, false)
    | some path =>
      match ← d.lookup (abbreviatedPath path) with
      | some n =>
        if asJson then documentResult n
        else do
          let (c, _) ← n.toCell
          return (c, false)
      | none => return (.null, false)

/-- How an edit treats a path: `set` puts the value whether the node was there
or is added, `insert` only where it is added, `replace` only where it was. -/
inductive EditKind where
  | set
  | insert
  | replace
  deriving DecidableEq

/-- The name of an editing function. -/
def EditKind.name : EditKind → String
  | .set => "json_set"
  | .insert => "json_insert"
  | .replace => "json_replace"

/-- Applies path and value pairs in turn. -/
def applyPairs (kind : EditKind) : Edited → List (Cell × Bool) → Except DocumentFault Edited
  | e, (p, _) :: (v, json) :: rest =>
    match pathOf p with
    | none => applyPairs kind e rest
    | some path => do
      let act := fun (added : Bool) =>
        if kind == .insert && !added then Edit.keep else Edit.put (.value v json)
      let e ← e.apply path act (kind != .replace)
      applyPairs kind e rest
  | e, _ => .ok e

/-- The result of an edited document: null when its root is removed, the
value itself when the root was replaced, and otherwise its text. -/
def editedResult (e : Edited) : Except DocumentFault (Cell × Bool) :=
  if e.removed then .ok (.null, false)
  else match e.root with
    | .value c json => .ok (c, json)
    | d => documentResult d

/-- `json_set`, `json_insert` and `json_replace`. -/
def editFunction (kind : EditKind) (args : List (Cell × Bool)) : Except DocumentFault (Cell × Bool) :=
  match args with
  | [] => .ok (.null, false)
  | (j, _) :: pairs =>
    if pairs.length % 2 = 1 then .error (.message (kind.name ++ "() needs an odd number of arguments"))
    else do
      match ← documentOf j with
      | none => return (.null, false)
      | some d => editedResult (← applyPairs kind { root := d } pairs)

/-- Removes the nodes of paths in turn; a null path makes the result null. -/
def removePaths : Edited → List (Cell × Bool) → Except DocumentFault (Option Edited)
  | e, [] => .ok (some e)
  | e, (p, _) :: rest =>
    match pathOf p with
    | none => .ok none
    | some path => do
      let e ← e.apply path (fun _ => .drop) false
      removePaths e rest

/-- `json_remove`, and `json` as its case without paths. -/
def removeFunction (args : List (Cell × Bool)) : Except DocumentFault (Cell × Bool) :=
  match args with
  | [] => .ok (.null, false)
  | (j, _) :: paths => do
    match ← documentOf j with
    | none => return (.null, false)
    | some d =>
      match ← removePaths { root := d } paths with
      | some e => editedResult e
      | none => return (.null, false)

/-- `json_patch`: the merge of a patch into a document. -/
def patchFunction (t p : Cell) : Except DocumentFault (Cell × Bool) := do
  match ← documentOf t with
  | none => return (.null, false)
  | some target =>
    match ← documentOf p with
    | none => return (.null, false)
    | some patch =>
      documentResult (Document.mergePatch (2 * (beforeNul p.textBytes).length + 2) target patch)

/-- The node of `json_type` and `json_array_length`: the root, or what a path finds. -/
def nodeAt (args : List (Cell × Bool)) : Except DocumentFault (Option Document) :=
  match args with
  | (j, _) :: rest => do
    match ← documentOf j with
    | none => return none
    | some d =>
      match rest with
      | (p, _) :: _ =>
        match pathOf p with
        | some path => d.lookup path
        | none => return none
      | [] => return some d
  | [] => .ok none

/-- The number of arguments of each JSON function: `none` for any number. -/
def documentArities (lower : String) : Option (Option (List Nat)) :=
  match lower with
  | "json" | "json_quote" | "json_valid" | "json_group_array" => some (some [1])
  | "json_array_length" | "json_type" => some (some [1, 2])
  | "json_patch" | "->" | "->>" | "json_group_object" => some (some [2])
  | "json_array" | "json_extract" | "json_insert" | "json_object" | "json_remove" | "json_replace"
  | "json_set" => some none
  | _ => none

/-- The value of a JSON function that is not an aggregate, by its lower-case
name, with whether it is JSON text; none for other names. -/
def documentFunction (lower : String) (args : List (Cell × Bool)) :
    Option (Except DocumentFault (Cell × Bool)) :=
  let a := (args.getD 0 (.null, false)).1
  let b := (args.getD 1 (.null, false)).1
  match lower with
  | "json" => some (removeFunction (args.take 1))
  | "json_array" => some (arrayFunction args)
  | "json_object" => some (objectFunction args)
  | "json_extract" => some (extractFunction args)
  | "->" => some (arrowFunction true a b)
  | "->>" => some (arrowFunction false a b)
  | "json_set" => some (editFunction .set args)
  | "json_insert" => some (editFunction .insert args)
  | "json_replace" => some (editFunction .replace args)
  | "json_remove" => some (removeFunction args)
  | "json_patch" => some (patchFunction a b)
  | "json_quote" => some (do
      let t ← jsonOfCell a (args.getD 0 (.null, false)).2
      return (.text t, true))
  | "json_type" => some (do
      match ← nodeAt args with
      | some n => return (.text (bytesOf n.kind), false)
      | none => return (.null, false))
  | "json_array_length" => some (do
      match ← nodeAt args with
      | some (.array items) => return (.integer (liveCount items), false)
      | some _ => return (.integer 0, false)
      | none => return (.null, false))
  | "json_valid" => some (.ok (match a with
      | .null => (.null, false)
      | c => (ofBool (Document.read? (beforeNul c.textBytes)).isSome, false)))
  | _ => none

/-- The aggregate `json_group_array` over the values of a group's rows. -/
def groupArray (rows : List (Cell × Bool)) : Except DocumentFault Cell := do
  let parts ← valueTexts rows
  return .text (0x5B :: joinedByCommas parts ++ [0x5D])

/-- The aggregate `json_group_object` over the labels and values of a group's
rows; a null label is written as nothing. -/
def groupObject (rows : List (Cell × Cell × Bool)) : Except DocumentFault Cell := do
  let parts ← rows.mapM fun (label, v, json) => do
    let t ← jsonOfCell v json
    let l := match label with
      | .null => []
      | c => jsonString c.textBytes
    pure (l ++ 0x3A :: t)
  return .text (0x7B :: joinedByCommas parts ++ [0x7D])

end Airspace.Store
