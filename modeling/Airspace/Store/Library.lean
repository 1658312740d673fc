import Airspace.Store.Cell
import Airspace.Obstacle.Definition

/-!
# The obstacle store over a database library

The store keeps obstacle definitions in a database through a library, of which it uses a few
operations (`Library`): start a transaction, commit it or roll it back; inside one, delete an
obstacle's waypoints, delete an obstacle (counting the rows that went) and create an obstacle with
its waypoints (giving back the id it has); outside one, find every obstacle with its waypoints, by id
and each one's by `order`, or the first obstacle with an id. What the store does with them is written
here once, for any library; the store's own database is one (`Connection.library`).

* Saving runs in one transaction: for a nonzero id, the obstacle's waypoints are deleted, then the
  obstacle; then the definition is created. A failure rolls the transaction back, and its text names
  the obstacle.
* Deleting runs in one transaction: the waypoints, then the obstacle; when no obstacle row went, the
  obstacle is not found.
* Listing and loading name the operation in a failure's text; getting reports a missing obstacle as
  not found with no other text, and another failure with the id.
-/

namespace Airspace.Store

open Airspace.Obstacle

/-- A value that the client hands to a time field and the field cannot take. -/
structure UnsupportedScan where
  column : Nat
  name : String
  kind : String

/-- Why a store operation failed. -/
inductive Cause where
  /-- No obstacle has the id. -/
  | notFound
  /-- The store was closed. -/
  | closed
  /-- The database refused a statement, with its result code. -/
  | engine (text : String) (code : Nat)
  /-- A stored value could not be read back. -/
  | scan (e : ScanError)
  /-- A stored value could not be read back as a time. -/
  | unsupported (e : UnsupportedScan)

/-- The text of a cause. -/
def Cause.message : Cause → String
  | .notFound => "store: obstacle not found"
  | .closed => "sql: database is closed"
  | .engine text code => text ++ " (" ++ toString code ++ ")"
  | .scan e => e.message
  | .unsupported e =>
    "sql: Scan error on column index " ++ toString e.column ++ ", name " ++ Text.quoteText e.name ++
      ": unsupported Scan, storing driver.Value type " ++ e.kind ++ " into type *time.Time"

/-- A failed store operation: what it was doing, and why it failed. -/
structure Failure where
  /-- The operation's prefix to the cause's text; empty when it adds none. -/
  context : String
  cause : Cause

/-- The text of a failure. -/
def Failure.message (f : Failure) : String := f.context ++ f.cause.message

/-- The operations of a database library that the store uses, on connections `σ` and on the
transactions `τ` they start. -/
structure Library (σ τ : Type) where
  /-- Starts a transaction. -/
  begin : σ → Except Cause τ
  /-- Commits a transaction: the connection afterwards. -/
  commit : σ → τ → σ
  /-- Rolls a transaction back: the connection afterwards. -/
  rollback : σ → σ
  /-- Deletes the waypoints of an obstacle. -/
  deletePoints : τ → Nat → Except Cause τ
  /-- Deletes an obstacle; also how many rows went. -/
  deleteObstacle : τ → Nat → Except Cause (τ × Nat)
  /-- Creates an obstacle with its waypoints, under its id or with none under a new one; also the
  id it has. -/
  create : τ → Definition → Except Cause (τ × Nat)
  /-- Every obstacle with its waypoints, by id, each one's by order. -/
  find : σ → σ × Except Cause (List Definition)
  /-- The first obstacle with an id, with its waypoints by order, if there is one. -/
  first : σ → Nat → σ × Except Cause (Option Definition)

namespace Library

variable {σ τ : Type} (L : Library σ τ)

/-- Runs `body` in a transaction: committed when it succeeds, rolled back when it fails. -/
def transact {β : Type} (s : σ) (body : τ → Except Cause (τ × β)) : σ × Except Cause β :=
  match L.begin s with
  | .error e => (s, .error e)
  | .ok tx =>
    match body tx with
    | .ok (tx, b) => (L.commit s tx, .ok b)
    | .error e => (L.rollback s, .error e)

/-- What a save does in its transaction: clears a given id, then creates the definition. -/
def saveIn (tx : τ) (d : Definition) : Except Cause (τ × Nat) := do
  let tx ← if d.id = 0 then pure tx else do
    let tx ← L.deletePoints tx d.id
    let (tx, _) ← L.deleteObstacle tx d.id
    pure tx
  L.create tx d

/-- What a removal does in its transaction: not found when no obstacle row went. -/
def removeIn (tx : τ) (id : Nat) : Except Cause (τ × Unit) := do
  let tx ← L.deletePoints tx id
  let (tx, n) ← L.deleteObstacle tx id
  if n = 0 then throw .notFound
  return (tx, ())

/-- Saves a definition: the store afterwards, and the id it is stored under. -/
def save (s : σ) (d : Definition) : σ × Except Failure Nat :=
  let (s, r) := L.transact s fun tx => L.saveIn tx d
  (s, r.mapError fun e => ⟨"save obstacle " ++ Text.quoteBytes d.name ++ ": ", e⟩)

/-- Deletes an obstacle and its waypoints. -/
def remove (s : σ) (id : Nat) : σ × Except Failure Unit :=
  let (s, r) := L.transact s fun tx => L.removeIn tx id
  (s, r.mapError fun e => ⟨"", e⟩)

/-- Every definition, by id. -/
def list (s : σ) : σ × Except Failure (List Definition) :=
  let (s, r) := L.find s
  (s, r.mapError fun e => ⟨"list obstacles: ", e⟩)

/-- One definition; a missing one is not found without further context. -/
def get (s : σ) (id : Nat) : σ × Except Failure Definition :=
  match L.first s id with
  | (s, .ok (some d)) => (s, .ok d)
  | (s, .ok none) => (s, .error ⟨"", .notFound⟩)
  | (s, .error e) => (s, .error ⟨"get obstacle " ++ toString id ++ ": ", e⟩)

/-- The moving obstacles of every definition. -/
def load (s : σ) : σ × Except Failure (List (MovingObstacle Float)) :=
  let (s, r) := L.list s
  (s, r.map (·.map Definition.build))

end Library

end Airspace.Store
