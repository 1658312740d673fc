import Airspace.Text.Blank
import Airspace.Text.Case

/-!
# Log levels

A log has six levels, from the most to the least verbose: trace, debug,
info, warn, error and fatal; a fatal entry ends the program. A logger set to a
level writes the entries of that level and above, and always writes the
entries that carry no level.

A level is read from configuration text without regard to surrounding white
space or case; `warning` is a second name of warn, and any other text means
info.
-/

namespace Airspace.Log

/-- How severe a log entry is. -/
inductive Level where
  | trace
  | debug
  | info
  | warn
  | error
  | fatal
  deriving DecidableEq, Repr

/-- The rank of a level: higher is more severe. -/
def Level.rank : Level → Nat
  | .trace => 0
  | .debug => 1
  | .info => 2
  | .warn => 3
  | .error => 4
  | .fatal => 5

/-- The name a level is written with. -/
def Level.name : Level → String
  | .trace => "trace"
  | .debug => "debug"
  | .info => "info"
  | .warn => "warn"
  | .error => "error"
  | .fatal => "fatal"

/-- The three-letter badge of a level in console lines. -/
def Level.badge : Level → String
  | .trace => "TRC"
  | .debug => "DBG"
  | .info => "INF"
  | .warn => "WRN"
  | .error => "ERR"
  | .fatal => "FTL"

/-- The level named by configuration text; info when the text names none. -/
def Level.parse (s : String) : Level :=
  match Text.lower (Text.trimBlank s) with
  | "trace" => .trace
  | "debug" => .debug
  | "warn" | "warning" => .warn
  | "error" => .error
  | _ => .info

/-- Whether a logger at `threshold` writes an entry of level `l`; an entry
without a level is always written. -/
def Level.admits (threshold : Level) : Option Level → Bool
  | none => true
  | some l => threshold.rank ≤ l.rank

end Airspace.Log
