import Airspace.Command.Obstacles
import Airspace.Command.Replay
import Airspace.Command.Ingest
import Airspace.Command.Detect
import Airspace.Command.Broadcast

/-!
# The tracker's programs

The five programs by name, and how a run of one changes the host and what
it leaves: its status, its standard output, its error stream and the answers
of its server.

A host is prepared by saving obstacle definitions into a database file and
running maintenance statements on it, the way an operator would before
starting the programs.
-/

namespace Airspace.Command

open Airspace.Log Airspace.Obstacle Airspace.Store

/-- The program of a name. -/
def program? : String → Option (List String → Program Unit)
  | "obstacles" => some catalogue
  | "consumer" => some replayer
  | "detector" => some detector
  | "ingestor" => some ingestor
  | "wsserver" => some broadcaster
  | _ => none

/-- What a run leaves. -/
structure Outcome where
  status : Nat
  stdout : String
  stderr : List Line
  responses : List Response

/-- Runs a program in a host: the host afterwards and the outcome. -/
def Host.launch (w : Host) (p : List String → Program Unit) (run : Run) : Host × Outcome :=
  let (status, s) := (p run.args).finish { host := w, run }
  (s.host, ⟨status, s.stdout, s.stderr, s.responses⟩)

/-- The host with definitions saved into the database file `name` and then
maintenance statements run on it. -/
def Host.prepare (w : Host) (name : String) (definitions : List Definition) (statements : List String) :
    Except Failure Host := do
  let start : Store.Connection := match w.content? name with
    | some (.database db) => { db }
    | _ => {}
  let saved ← definitions.foldlM (fun (s : Store.Connection) d => do
    let (s, r) := s.save d
    let _ ← r
    return s) start
  match saved.db.runAll statements with
  | (db, none) => return w.store name (.database db)
  | (_, some c) => throw ⟨"", c⟩

end Airspace.Command
