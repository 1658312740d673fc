import Airspace.Command.Programs

/-!
# The command line

`airspace <program> [flags] [arguments]` runs one of the tracker's programs
(`obstacles`, `consumer`, `detector`, `ingestor`, `wsserver`) in a fresh
host: an empty working directory, the settings' variables of the
environment, and no broker or feed answering. Standard output and the error
stream are written as the program leaves them, and the process ends with the
program's status.
-/

namespace Airspace.Command

/-- The environment variables the settings read. -/
def settingsVariables : List String := ["DB_PATH", "KAFKA_BROKER", "KAFKA_TOPIC", "LOG_LEVEL"]

/-- The text of a line of the error stream. -/
def lineText : Log.Line → String
  | .record v => v.render {}
  | .text s => s

/-- The fresh host a program runs in, with these environment variables. -/
def freshHost (environment : List (String × String)) : Host :=
  { workdir := ".", environment, broker := { address := "localhost:9092", reachable := false, topics := [] } }

end Airspace.Command

/-- Runs the program named by the first argument. -/
def main (args : List String) : IO UInt32 := do
  let environment ← Airspace.Command.settingsVariables.filterMapM fun name => do
    return (← IO.getEnv name).map fun value => (name, value)
  match args with
  | name :: rest =>
    match Airspace.Command.program? name with
    | some program =>
      let (_, outcome) := (Airspace.Command.freshHost environment).launch program { args := rest }
      IO.print outcome.stdout
      let stderr ← IO.getStderr
      outcome.stderr.forM fun line => stderr.putStrLn (Airspace.Command.lineText line)
      return outcome.status.toUInt32
    | none =>
      IO.eprintln ("unknown program " ++ name)
      return 2
  | [] =>
    IO.eprintln "usage: airspace <obstacles|consumer|detector|ingestor|wsserver> [flags] [arguments]"
    return 2
