import Airspace.Log.Level
import Airspace.Json.Value
import Airspace.Text.Quoted
import Airspace.Text.Case

/-!
# Log entries and their two layouts

An entry has an optional level, named fields in the order they were added,
and a message. It is written either as one JSON object per line, or as a
console line for people.

The JSON object holds `level` when the entry has one, the fields, and
`message` when the message is not empty; the time of writing is not part of
the entry.

The console line is the level's badge (`???` without a level), the message
when not empty, and the fields as `name=value` sorted by name, except that
`error` comes first, all separated by single spaces. A text value is written
as it is unless it holds a space, a backslash, a quote, a control character or
a non-ASCII character, in which case it is quoted; other values are written as
compact JSON. A message is written as it is, so one that holds line feeds
spreads over several lines.
-/

namespace Airspace.Log

open Airspace.Json

/-- One log entry. -/
structure Entry where
  level : Option Level
  fields : List (String × Value) := []
  message : String

/-- How log entries are laid out. -/
inductive Layout where
  /-- One JSON object per line. -/
  | json
  /-- Console lines for people. -/
  | console
  deriving DecidableEq

/-- The layout a format name asks for: `json` in any case, else console lines. -/
def Layout.ofName (format : String) : Layout :=
  if Text.equalFold format "json" then .json else .console

/-- A number as an entry field: JSON digits when finite, else the text `NaN`,
`+Inf` or `-Inf`. -/
def numberField (x : Float) : Value :=
  if x.isNaN || x.isInf then .string (numberNotation.render x) else Value.ofFloat x

/-- The entry as a JSON object. -/
def Entry.toJson (e : Entry) : Value :=
  .object ((e.level.map fun l => [("level", .string l.name)]).getD [] ++ e.fields ++
    (if e.message.isEmpty then [] else [("message", .string e.message)]))

/-- Whether a text value must be quoted on a console line: it holds a space, a
backslash, a quote, or a character outside printable ASCII. -/
def needsQuote (s : String) : Bool :=
  s.toList.any fun c => c.toNat < 0x21 || c.toNat > 0x7E || c == '\\' || c == '"'

/-- A field value on a console line. -/
def consoleValue : Value → String
  | .string s => if needsQuote s then Text.quoteText s else s
  | .number lit => lit
  | v => v.render { escapeHtml := true, sortKeys := true }

/-- The field names in console order: sorted, with `error` first. -/
def consoleOrder (names : List String) : List String :=
  let sorted := names.mergeSort fun a b => keyBefore a b || a == b
  if sorted.contains "error" then "error" :: sorted.filter (· != "error") else sorted

/-- The entry as console text, without the leading time. -/
def Entry.console (e : Entry) : String :=
  let badge := (e.level.map Level.badge).getD "???"
  let names := consoleOrder (e.fields.map Prod.fst).eraseDups
  let fieldText := names.map fun n =>
    n ++ "=" ++ consoleValue (((e.fields.reverse.find? (·.1 == n)).map Prod.snd).getD .null)
  " ".intercalate (badge :: (if e.message.isEmpty then [] else [e.message]) ++ fieldText)

/-- The console lines of an entry, without the leading time. -/
def Entry.consoleLines (e : Entry) : List String := e.console.splitOn "\n"

/-- A line a program writes to its error stream: a JSON log record, or text. -/
inductive Line where
  | record (v : Value)
  | text (s : String)

/-- The lines of an entry in a layout. -/
def Entry.lines (layout : Layout) (e : Entry) : List Line :=
  match layout with
  | .json => [.record e.toJson]
  | .console => e.consoleLines.map Line.text

/-- A logger: where entries go, at what level, with which fields added. -/
structure Logger where
  layout : Layout
  threshold : Level
  /-- Fields every entry carries, before its own. -/
  context : List (String × Value) := []

/-- The logger of a component: its entries carry `component`, which replaces
the component of the logger it derives from. -/
def Logger.component (l : Logger) (name : String) : Logger :=
  { l with context := l.context.filter (·.1 != "component") ++ [("component", .string name)] }

/-- The lines a logger writes for an entry: none when its level is below the threshold. -/
def Logger.write (l : Logger) (e : Entry) : List Line :=
  if l.threshold.admits e.level then { e with fields := l.context ++ e.fields }.lines l.layout else []

/-- Writes an entry of a level. -/
def Logger.log (l : Logger) (level : Level) (message : String) (fields : List (String × Value) := []) :
    List Line :=
  l.write { level := some level, fields, message }

end Airspace.Log
