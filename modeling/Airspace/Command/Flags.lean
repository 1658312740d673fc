import Airspace.Text.Quoted

/-!
# Command-line flags

Each program takes flags before its other arguments: `-name value`,
`-name=value`, or the same with two dashes. Reading stops at the first
argument that is not a flag (one that does not start with `-`, or is `-`
alone), and after `--`, which is itself dropped. Every flag takes a value; when
it is not joined by `=` the next argument is the value, whatever it looks like.
A flag given twice keeps its last value.

An unknown flag, a flag at the end with no value, and a malformed flag such as
`---x` or `-=x` are errors: the program writes the error and its usage to the
error stream and stops with status 2. `-h` and `-help`, unless the program
defines them, ask for the usage alone, and the program stops with status 0.
-/

namespace Airspace.Command

/-- A flag a program accepts: all flags here take a text value. -/
structure Flag where
  name : String
  default : String
  usage : String

/-- Why the flags could not be read. -/
inductive FlagError where
  /-- A flag the program does not define. -/
  | undefined (name : String)
  /-- A flag at the end of the arguments, with no value. -/
  | missingValue (name : String)
  /-- An argument that starts like a flag but is none. -/
  | badSyntax (arg : String)
  /-- The usage was asked for. -/
  | help

/-- The line an error writes before the usage; none for a request for help. -/
def FlagError.message? : FlagError → Option String
  | .undefined n => some ("flag provided but not defined: -" ++ n)
  | .missingValue n => some ("flag needs an argument: -" ++ n)
  | .badSyntax a => some ("bad flag syntax: " ++ a)
  | .help => none

/-- The status a program stops with on an error: 0 for help, 2 otherwise. -/
def FlagError.status : FlagError → Nat
  | .help => 0
  | _ => 2

/-- The flags read so far, the last value of a name first. -/
abbrev FlagValues := List (String × String)

/-- The value of a flag: the last one given, else its default. -/
def flagValue (flags : List Flag) (given : FlagValues) (name : String) : String :=
  match given.lookup name with
  | some v => v
  | none => ((flags.find? (·.name == name)).map Flag.default).getD ""

/-- The name and the joined value of a flag argument, after its dashes. -/
def splitAssignment (body : String) : String × Option String :=
  match body.toList with
  | [] => ("", none)
  | c :: rest =>
    match rest.findIdx? (· == '=') with
    | some i => (String.ofList (c :: rest.take i), some (String.ofList (rest.drop (i + 1))))
    | none => (body, none)

/-- Reads flags from the front of the arguments: the values given and the
arguments that remain. -/
def readFlags (flags : List Flag) : FlagValues → List String → Except FlagError (FlagValues × List String)
  | given, [] => .ok (given, [])
  | given, arg :: rest =>
    match arg.toList with
    | '-' :: c :: more =>
      let (dashes, body) := if c == '-' then (2, more) else (1, c :: more)
      if dashes == 2 && body.isEmpty then .ok (given, rest)
      else match body with
        | [] | '-' :: _ | '=' :: _ => .error (.badSyntax arg)
        | _ =>
          let (name, joined) := splitAssignment (String.ofList body)
          if !flags.any (·.name == name) then
            if name == "help" || name == "h" then .error .help else .error (.undefined name)
          else match joined, rest with
            | some v, rest => readFlags flags ((name, v) :: given) rest
            | none, v :: rest => readFlags flags ((name, v) :: given) rest
            | none, [] => .error (.missingValue name)
    | _ => .ok (given, arg :: rest)

/-- The default usage text of a program: its flags by name, each with its value
kind, its usage and a default that is not empty. -/
def defaultUsage (program : String) (flags : List Flag) : String :=
  let sorted := flags.mergeSort fun a b => decide (a.name ≤ b.name)
  "Usage of " ++ program ++ ":\n" ++ String.join (sorted.map fun f =>
    "  -" ++ f.name ++ " string\n    \t" ++ f.usage.replace "\n" "\n    \t" ++
      (if f.default.isEmpty then "" else " (default " ++ Text.quoteText f.default ++ ")") ++ "\n")

end Airspace.Command
