import Airspace.Store.Database
import Airspace.Bus.Broker
import Airspace.Feed.Fetch
import Airspace.Log.Entry
import Airspace.Text.Utf8

/-!
# The host a program runs in

A program runs in a working directory of plain files, with an environment,
a message broker and, perhaps, a feed of aircraft states answering at one
address. Database files are files of the working directory too; their
content is the database itself.

Paths are followed step by step from the root or the working directory, which
lies in `/tmp`. An empty step and `.` stay where they are, `..` goes up, and
a path that goes on after a file or a device, or ends in `/` after one, is not
a directory. Besides the working directory and the directories above it, the
system has the directories `/dev`, `/etc`, `/proc`, `/root`, `/sys`, `/usr` and
`/var`, and the devices `/dev/null` (which takes any writing) and `/dev/full`
(which refuses it). The working directory holds plain files only.

A program writes text to its standard output and lines to its error stream,
and ends with a status: 0 when it succeeds.
-/

namespace Airspace.Command

open Airspace.Store Airspace.Bus Airspace.Log

/-- What a file holds. -/
inductive Content where
  | bytes (b : List UInt8)
  | database (db : Database)

/-- The first bytes of every database file. -/
def databaseHeader : List UInt8 := "SQLite format 3".toUTF8.toList ++ [0]

/-- The bytes of a file's content. -/
def Content.toBytes : Content → List UInt8
  | .bytes b => b
  | .database _ => databaseHeader

/-- Where a program runs. -/
structure Host where
  /-- The full name of the working directory. -/
  workdir : String
  /-- The files of the working directory, by name. -/
  files : List (String × Content) := []
  environment : List (String × String) := []
  broker : Broker
  /-- The address at which the feed answers. -/
  feedUrl : String := ""
  /-- The feed's answer, when there is a feed. -/
  feed : Option Feed.Reply := none
  /-- The instant a program starts at. -/
  clock : Time.Timestamp := Time.Timestamp.zero
  /-- Addresses set aside for the programs' servers, known to be free. -/
  reserved : List String := []

/-- Where a path leads. -/
inductive Place where
  /-- A file of the working directory, which may not exist yet. -/
  | file (name : String)
  /-- A directory. -/
  | directory
  /-- A device: `/dev/null` discards what is written, `/dev/full` refuses it. -/
  | device (discards : Bool)
  /-- Nowhere: a step of the path does not exist. -/
  | nowhere
  /-- The path goes on after a file or a device. -/
  | notDirectory

/-- What a path has reached after some of its steps. -/
inductive Node where
  /-- A directory, by the steps from the root. -/
  | directory (steps : List String)
  | file (name : String)
  | device (discards : Bool)

/-- The directories of the system, by their steps from the root. -/
def systemDirectories : List (List String) :=
  [[], ["dev"], ["etc"], ["proc"], ["root"], ["sys"], ["tmp"], ["usr"], ["var"]]

/-- The steps from the root to the working directory. -/
def Host.workSteps (w : Host) : List String := ["tmp", w.workdir]

/-- The entry of a directory with a name. -/
def Host.entry? (w : Host) (dir : List String) (name : String) : Option Node :=
  let steps := dir ++ [name]
  if systemDirectories.contains steps || steps.isPrefixOf w.workSteps then some (.directory steps)
  else if dir == w.workSteps && (w.files.lookup name).isSome then some (.file name)
  else if dir == ["dev"] && name == "null" then some (.device true)
  else if dir == ["dev"] && name == "full" then some (.device false)
  else none

/-- Follows the steps of a path from a node. A missing last step in the
working directory is a file that may be created. -/
def Host.follow (w : Host) : Node → List String → Place
  | .directory _, [] => .directory
  | .file name, [] => .file name
  | .device discards, [] => .device discards
  | .file _, _ :: _ | .device _, _ :: _ => .notDirectory
  | .directory dir, step :: rest =>
    if step == "" || step == "." then w.follow (.directory dir) rest
    else if step == ".." then w.follow (.directory dir.dropLast) rest
    else match w.entry? dir step with
      | some n => w.follow n rest
      | none => if rest.isEmpty && dir == w.workSteps then .file step else .nowhere

/-- The place a path leads to. The empty path is the working directory, as is
its full name, which also leads the names of its files. -/
def Host.place (w : Host) (path : String) : Place :=
  if path.isEmpty || path == w.workdir then .directory
  else if path.startsWith (w.workdir ++ "/") then
    w.follow (.directory w.workSteps) ((path.drop (w.workdir.length + 1)).toString.splitOn "/")
  else if path.startsWith "/" then w.follow (.directory []) ((path.drop 1).toString.splitOn "/")
  else w.follow (.directory w.workSteps) (path.splitOn "/")

/-- The content of a file of the working directory. -/
def Host.content? (w : Host) (name : String) : Option Content := w.files.lookup name

/-- The host with a file's content replaced. -/
def Host.store (w : Host) (name : String) (c : Content) : Host :=
  { w with files := (w.files.filter (·.1 != name)) ++ [(name, c)] }

/-- Why a file could not be opened, read or written. -/
structure FileError where
  /-- `open`, `read` or `write`. -/
  op : String
  path : String
  reason : String

/-- The text of a file error. -/
def FileError.message (e : FileError) : String := e.op ++ " " ++ e.path ++ ": " ++ e.reason

/-- The reason a missing file gives. -/
def noSuchFile : String := "no such file or directory"

/-- Reads a whole file. -/
def Host.readFile (w : Host) (path : String) : Except FileError (List UInt8) :=
  match w.place path with
  | .file name =>
    match w.content? name with
    | some c => .ok c.toBytes
    | none => .error ⟨"open", path, noSuchFile⟩
  | .directory => .error ⟨"read", path, "is a directory"⟩
  | .device _ => .ok []
  | .nowhere => .error ⟨"open", path, noSuchFile⟩
  | .notDirectory => .error ⟨"open", path, "not a directory"⟩

/-- Creates or truncates a file and writes bytes to it. -/
def Host.writeFile (w : Host) (path : String) (bytes : List UInt8) : Except FileError Host :=
  match w.place path with
  | .file name => .ok (w.store name (.bytes bytes))
  | .directory => .error ⟨"open", path, "is a directory"⟩
  | .device discards =>
    if discards || bytes.isEmpty then .ok w else .error ⟨"write", path, "no space left on device"⟩
  | .nowhere => .error ⟨"open", path, noSuchFile⟩
  | .notDirectory => .error ⟨"open", path, "not a directory"⟩

/-- The text of a file, for reading back after a run. -/
def Host.fileText? (w : Host) (name : String) : Option String :=
  (w.content? name).map fun c => Text.toText c.toBytes

/-- An open database: where it lives, if in a file, and the store. -/
structure Handle where
  file : Option String
  store : Store.Connection

/-- Opens the database a data source names: `:memory:` is a fresh private
database; a file holds one, or is empty or missing and becomes one; anything
else cannot be opened. -/
def Host.openDatabase (w : Host) (source : String) : Except Failure Handle :=
  let unopenable : Failure := ⟨"open sqlite " ++ Text.quoteText source ++ ": ",
    .engine "unable to open database file: out of memory" 14⟩
  if source == ":memory:" then .ok ⟨none, {}⟩
  else match w.place source with
    | .file name =>
      match w.content? name with
      | some (.database db) => .ok ⟨some name, { db }⟩
      | some (.bytes []) | none => .ok ⟨some name, {}⟩
      | some (.bytes _) => .error ⟨"migrate schema: ", .engine "file is not a database" 26⟩
    | _ => .error unopenable

/-- The host with a database's changes kept in its file. -/
def Host.keep (w : Host) (h : Handle) : Host :=
  match h.file with
  | some name => w.store name (.database h.store.db)
  | none => w

/-- How a run of a long-lived program is ended from outside: once `count` JSON
log lines with this message have been written (or after five seconds), the
requests are made and the program is asked to stop. -/
structure Stop where
  message : String
  count : Nat := 1

/-- How a program is run. -/
structure Run where
  args : List String := []
  stop : Option Stop := none
  /-- The paths requested from the program's server before it is stopped. -/
  requests : List String := []
  /-- Whether a live-update client connects before it is stopped. -/
  socket : Bool := false

/-- An answer of a program's server. -/
inductive Response where
  /-- A page: its status, content type and body. -/
  | page (path : String) (status : Nat) (contentType : String) (body : String)
  /-- The request found no server, or the connection broke. -/
  | failed (path : String) (error : String)
  /-- A frame pushed to a live-update client. -/
  | frame (body : Json.Value)

/-- A program in progress: the host, how it is run, and what it has written. -/
structure Session where
  host : Host
  run : Run := {}
  stdout : String := ""
  stderr : List Line := []
  responses : List Response := []

/-- The steps of a program: they change the session, and may end the program
with a status. -/
abbrev Program := ExceptT Nat (StateM Session)

/-- Writes text to the standard output. -/
def say (text : String) : Program Unit :=
  modify fun s => { s with stdout := s.stdout ++ text }

/-- Writes lines to the error stream. -/
def emit (lines : List Line) : Program Unit :=
  modify fun s => { s with stderr := s.stderr ++ lines }

/-- Writes text to the error stream, line by line. -/
def complain (text : String) : Program Unit := emit ((text.splitOn "\n").map Line.text)

/-- Logs an entry. -/
def note (l : Logger) (level : Level) (message : String) (fields : List (String × Json.Value) := []) :
    Program Unit :=
  emit (l.log level message fields)

/-- Logs a fatal entry and ends the program with status 1. -/
def fatal {α : Type} (l : Logger) (message : String) (fields : List (String × Json.Value) := []) :
    Program α := do
  note l .fatal message fields
  throw 1

/-- The host as the program sees it. -/
def host : Program Host := do return (← get).host

/-- Answers a request of the program's server. -/
def respond (r : Response) : Program Unit :=
  modify fun s => { s with responses := s.responses ++ [r] }

/-- How the program is run. -/
def currentRun : Program Run := do return (← get).run

/-- The number of JSON log lines written so far with a message. -/
def Session.linesWith (s : Session) (message : String) : Nat :=
  (s.stderr.filter fun
    | .record v => (v.field? "message").any fun
        | .string m => m == message
        | _ => false
    | .text _ => false).length

/-- Whether the lines awaited by whoever runs the program have been written. -/
def awaitedSeen : Program Bool := do
  let s ← get
  match s.run.stop with
  | some stop => return s.linesWith stop.message ≥ stop.count
  | none => return false

/-- Changes the host. -/
def alterHost (f : Host → Host) : Program Unit :=
  modify fun s => { s with host := f s.host }

/-- What a finished program leaves: its status and the session. -/
def Program.finish (p : Program Unit) (s : Session) : Nat × Session :=
  match (p.run).run s with
  | (.ok (), s) => (0, s)
  | (.error status, s) => (status, s)

end Airspace.Command
