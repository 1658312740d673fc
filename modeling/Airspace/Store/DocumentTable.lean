import Airspace.Store.DocumentFunction
import Airspace.Store.Schema

/-!
# JSON documents as tables

`json_each` and `json_tree` read a JSON document in `FROM` and give a table
with one row per node: `json_each` the elements or members of the node a path
reaches (or that node alone when it is no container), `json_tree` that node
and every node under it, in the order they are written.

The rows number the nodes the way the engine lays a document out: a node comes
before the nodes inside it, and an object member is a node for its label and
then its value's nodes, so the first element of a top-level array is node 1
and the first member's value of a top-level object is node 2. A row's `id` is
its node's number (a member's value, not its label), and `parent` under
`json_tree` is the number of its container.

A row's `fullkey` is the path to its node and `path` the path to its
container. Under `json_each` both start from the path as it was given; under
`json_tree` they are written from the top of the document, a label as `.name`
when it is a letter followed by letters and digits, otherwise in its quotes
as written.

A null document or path gives no rows, a document that does not read as JSON
fails with `malformed JSON`, and a path that does not read fails as it does
in the JSON functions.
-/

namespace Airspace.Store

mutual

/-- The number of nodes a document lays out. -/
def Document.size : Document → Nat
  | .array items => 1 + itemsSize items
  | .object members => 1 + membersSize members
  | _ => 1

/-- The number of nodes of array elements. -/
def itemsSize : List (Document × Mark) → Nat
  | [] => 0
  | (d, _) :: rest => d.size + itemsSize rest

/-- The number of nodes of object members, a label and a value each. -/
def membersSize : List (Label × Document × Mark) → Nat
  | [] => 0
  | (_, d, _) :: rest => 1 + d.size + membersSize rest

end

/-- A step from a container to a node inside it. -/
inductive Step where
  | member (label : Label)
  | element (index : Nat)

/-- Where a path leads in a document (the node numbered `base`): the node, its
number, and the steps to it, each with the number of the container it leaves. -/
def Document.locate : Nat → Nat → Document → List UInt8 →
    Except DocumentFault (Option (Document × Nat × List (Nat × Step)))
  | 0, _, _, _ => .ok none
  | fuel + 1, base, d, path =>
    let within := fun (found : Option (Document × Nat × List (Nat × Step))) (s : Step) =>
      found.map fun (n, i, steps) => (n, i, (base, s) :: steps)
    match path, d with
    | [], _ => .ok (some (d, base, []))
    | 0x2E :: rest, .object ms => do
      let (key, after) ← readKey rest
      match ms.findIdx? (fun (l, _, _) => l.isKey key) with
      | some k =>
        let (l, v, _) := ms.getD k (.plain [], .null, .live)
        let found ← v.locate fuel (base + 1 + membersSize (ms.take k) + 1) after
        return within found (.member l)
      | none => return none
    | 0x2E :: _, _ => .ok none
    | 0x5B :: _, _ => do
      let step ← readIndex path
      let target : Option (Nat × List UInt8) ← match step, d with
        | .plain i after, .array _ => pure (some (i, after))
        | .fromEnd back tail, .array items =>
          if back > items.length then pure none
          else match tail with
            | 0x5D :: after => pure (some (items.length - back, after))
            | _ => throw (.path path)
        | _, _ => pure none
      match target, d with
      | some (i, after), .array items =>
        if i < items.length then
          let v := (items.getD i (.null, .live)).1
          let found ← v.locate fuel (base + 1 + itemsSize (items.take i)) after
          return within found (.element i)
        else return none
      | _, _ => return none
    | _, _ => .error (.path path)

/-- A label as a step of a path: `.name` when its text is a letter followed by
letters and digits, otherwise `.` and the label in its quotes as written. -/
def Label.pathStep (l : Label) : List UInt8 :=
  match l with
  | .token bs =>
    match (bs.drop 1).dropLast with
    | c :: rest =>
      if isAlphanumeric c && !isDigit c && rest.all isAlphanumeric then 0x2E :: c :: rest else 0x2E :: bs
    | [] => 0x2E :: bs
  | .plain bs => 0x2E :: bs

/-- A step as written in a path. -/
def Step.text : Step → List UInt8
  | .member l => l.pathStep
  | .element i => bytesOf ("[" ++ toString i ++ "]")

/-- The value of a label as a key: its text with its escapes resolved. -/
def Label.key (l : Label) : Cell :=
  match l with
  | .token bs =>
    match (Document.string bs (bs.contains 0x5C)).toCell with
    | .ok (c, _) => c
    | .error _ => .null
  | .plain bs => .text bs

/-- A row of `json_each` or `json_tree`: the key (a label or an index), the
node, its number, the number of its container, the path to it and the path to
its container. -/
structure DocumentRow where
  key : Cell
  node : Document
  id : Nat
  parent : Option Nat
  fullKey : List UInt8
  path : List UInt8

/-- The rows of `json_each` for array elements from the one numbered `place`,
the `k`-th of the array reached by the path `given`. -/
def eachItemRows (given : List UInt8) : List (Document × Mark) → Nat → Nat → List DocumentRow
  | [], _, _ => []
  | (d, _) :: rest, place, k =>
    let row : DocumentRow :=
      { key := .integer k, node := d, id := place, parent := none
        fullKey := given ++ Step.text (.element k), path := given }
    row :: eachItemRows given rest (place + d.size) (k + 1)

/-- The rows of `json_each` for object members, the first one's label numbered
`place`, of the object reached by the path `given`. -/
def eachMemberRows (given : List UInt8) : List (Label × Document × Mark) → Nat → List DocumentRow
  | [], _ => []
  | (l, d, _) :: rest, place =>
    let row : DocumentRow :=
      { key := l.key, node := d, id := place + 1, parent := none
        fullKey := given ++ l.pathStep, path := given }
    row :: eachMemberRows given rest (place + 1 + d.size)

/-- The rows of `json_each` for a node numbered `base` reached by the path
`given`: its elements, its members, or the node itself. -/
def eachRows (node : Document) (base : Nat) (given : List UInt8) : List DocumentRow :=
  match node with
  | .array items => eachItemRows given items (base + 1) 0
  | .object members => eachMemberRows given members (base + 1)
  | d => [{ key := .null, node := d, id := base, parent := none, fullKey := given, path := given }]

mutual

/-- The rows of `json_tree` for a node and the nodes inside it, in the order
they are written: the node numbered `id`, with its key, its container's number
and the paths to it and to its container. -/
def treeRows (d : Document) (id : Nat) (key : Cell) (parent : Option Nat) (fullKey path : List UInt8) :
    List DocumentRow :=
  { key, node := d, id, parent, fullKey, path } ::
    match d with
    | .array items => itemRows items (id + 1) 0 id fullKey
    | .object members => memberRows members (id + 1) id fullKey
    | _ => []

/-- The rows of array elements from the one numbered `place`, the `k`-th of the
array numbered `parent` with the path `above`. -/
def itemRows : List (Document × Mark) → Nat → Nat → Nat → List UInt8 → List DocumentRow
  | [], _, _, _, _ => []
  | (d, _) :: rest, place, k, parent, above =>
    treeRows d place (.integer k) (some parent) (above ++ Step.text (.element k)) above ++
      itemRows rest (place + d.size) (k + 1) parent above

/-- The rows of object members, the first one's label numbered `place`, in the
object numbered `parent` with the path `above`. -/
def memberRows : List (Label × Document × Mark) → Nat → Nat → List UInt8 → List DocumentRow
  | [], _, _, _ => []
  | (l, d, _) :: rest, place, parent, above =>
    treeRows d (place + 1) l.key (some parent) (above ++ l.pathStep) above ++
      memberRows rest (place + 1 + d.size) parent above

end

/-- The rows of `json_tree` from the node a path reaches by `steps`: the node
keeps the label it has as a member, and its paths are written from the top. -/
def treeRowsAt (node : Document) (id : Nat) (steps : List (Nat × Step)) : List DocumentRow :=
  let texts := steps.map (·.2.text)
  let fullKey := bytesOf "$" ++ texts.flatten
  let path := bytesOf "$" ++ texts.dropLast.flatten
  let key := match steps.getLast? with
    | some (_, .member l) => l.key
    | _ => .null
  treeRows node id key none fullKey path

/-- The names of the table functions that read JSON documents. -/
def documentTableNames : List String := ["json_each", "json_tree"]

/-- The rows of `json_each` (or, `recursive`, `json_tree`) over the document
and path given as arguments. -/
def documentRows (recursive : Bool) (args : List Cell) : Except DocumentFault (List DocumentRow) := do
  match args with
  | [] => return []
  | j :: rest =>
    match ← documentOf j with
    | none => return []
    | some d =>
      let given ← match rest with
        | [] => pure (some (bytesOf "$"))
        | p :: _ => pure (pathOf p)
      match given with
      | none => return []
      | some path =>
        let found ← match path with
          | 0x24 :: more => d.locate (2 * more.length + 2) 0 more
          | _ => throw (.path path)
        match found with
        | none => return []
        | some (node, id, steps) =>
          return if recursive then treeRowsAt node id steps else eachRows node id path

/-- The columns of the tables of `json_each` and `json_tree`. -/
def documentColumns : List TableColumn :=
  ["key", "value", "type", "atom", "id", "parent", "fullkey", "path"].map fun n => { name := n, type := "" }

/-- A row of `json_each` or `json_tree` as the values of its columns. -/
def DocumentRow.cells (r : DocumentRow) : List Cell :=
  let value := match r.node.toCell with
    | .ok (c, _) => c
    | .error _ => .null
  let atom := match r.node with
    | .array _ | .object _ => .null
    | _ => value
  [r.key, value, .text (bytesOf r.node.kind), atom, .integer r.id,
    (r.parent.map fun p => Cell.integer p).getD .null, .text r.fullKey, .text r.path]

end Airspace.Store
