import Airspace.Text.Quoted
import Airspace.Decimal.Notation

/-!
# A registry of counters and gauges

A registry holds metrics by name. Each metric is described by its name, help
text and label names, and is a counter, a gauge, a counter whose value a
function gives, or a family of counters or gauges keyed by one label value.

Registering a metric whose name is already held is refused. If the held
metric's help text or label names differ, the refusal says the descriptions
are inconsistent; otherwise it hands back the metric already held, so that
its owner may reuse it. A name must start with a letter, `_` or `:` and
continue with letters, digits, `_` or `:`.

A counter never decreases: adding a negative amount is a fault. It keeps a
whole part, to which whole amounts are added exactly, and a binary64 part for
the rest; its value is their sum. A gauge is a plain binary64 sum.

The registry is shown either as a map from series name (`name` or
`name{label=value}`) to value, or in the text exposition format: metrics by
name, each with its `# HELP` and `# TYPE` lines, series by label value.
-/

namespace Airspace.Metrics

/-- A counter's value: a whole part and a fractional remainder. -/
structure Tally where
  whole : Nat := 0
  rest : Float := 0

/-- The value of a tally. -/
def Tally.value (t : Tally) : Float := Float.ofNat t.whole + t.rest

/-- Why an amount cannot be added. -/
inductive Fault where
  /-- A counter was asked to decrease. -/
  | counterDecrease
  /-- A metric was used before it existed. -/
  | missingMetric

/-- The text of a fault. -/
def Fault.message : Fault → String
  | .counterDecrease => "counter cannot decrease in value"
  | .missingMetric => "runtime error: invalid memory address or nil pointer dereference"

/-- Adds to a counter: a whole amount exactly, another to the binary64 part. -/
def Tally.add (t : Tally) (v : Float) : Except Fault Tally :=
  if v < 0 then .error .counterDecrease
  else
    let whole := (Binary64.truncInt v).toNat
    if v < 18446744073709551616.0 && Float.ofNat whole == v then
      .ok { t with whole := (t.whole + whole) % Nat.pow 2 64 }
    else .ok { t with rest := t.rest + v }

/-- What a metric is. -/
inductive Kind where
  | counter (tally : Tally)
  | gauge (value : Float)
  /-- A counter whose value is given when read. -/
  | counterFunc (value : Float)
  /-- Counters by label value, in the order first used. -/
  | counterVec (series : List (String × Tally))
  /-- Gauges by label value. -/
  | gaugeVec (series : List (String × Float))

/-- A registered metric. -/
structure Metric where
  name : String
  help : String
  labels : List String
  kind : Kind

/-- Whether a metric can serve where a single counter is wanted: counters and gauges can. -/
def Metric.actsAsCounter (m : Metric) : Bool :=
  match m.kind with
  | .counter _ | .gauge _ => true
  | _ => false

/-- Whether a metric is a family of counters. -/
def Metric.isCounterVec (m : Metric) : Bool :=
  match m.kind with
  | .counterVec _ => true
  | _ => false

/-- The description of a metric, as refusals show it. -/
def Metric.describe (m : Metric) : String :=
  "Desc\x7bfqName: " ++ Text.quoteText m.name ++ ", help: " ++ Text.quoteText m.help ++
    ", constLabels: \x7b\x7d, variableLabels: \x7b" ++ ",".intercalate m.labels ++ "\x7d\x7d"

/-- Whether a metric name is well formed. -/
def validName (s : String) : Bool :=
  match s.toList with
  | [] => false
  | c :: rest =>
    let start := fun (c : Char) => ('a' ≤ c ∧ c ≤ 'z') || ('A' ≤ c ∧ c ≤ 'Z') || c == '_' || c == ':'
    start c && rest.all fun c => start c || ('0' ≤ c ∧ c ≤ '9')

/-- Why a registration is refused. -/
inductive RegisterError where
  /-- The name is not well formed. -/
  | invalidName (m : Metric)
  /-- A metric of that name is held with another help text or other labels. -/
  | inconsistent (m : Metric)
  /-- A metric of that name and description is held already. -/
  | alreadyRegistered (existing : Metric)

/-- The text of a refusal. -/
def RegisterError.message : RegisterError → String
  | .invalidName m => "descriptor " ++ m.describe ++ " is invalid: " ++ Text.quoteText m.name ++
      " is not a valid metric name"
  | .inconsistent m => "a previously registered descriptor with the same fully-qualified name as " ++
      m.describe ++ " has different label names or a different help string"
  | .alreadyRegistered _ => "duplicate metrics collector registration attempted"

/-- The metrics held. -/
structure Registry where
  metrics : List Metric := []

/-- The metric of a name. -/
def Registry.find? (r : Registry) (name : String) : Option Metric := r.metrics.find? (·.name == name)


/-- Registers a metric. -/
def Registry.register (r : Registry) (m : Metric) : Except RegisterError Registry :=
  if !validName m.name then .error (.invalidName m)
  else match r.find? m.name with
    | some held =>
      if held.help != m.help || held.labels != m.labels then .error (.inconsistent m)
      else .error (.alreadyRegistered held)
    | none => .ok ⟨r.metrics ++ [m]⟩

/-- Replaces the metric of a name. -/
def Registry.update (r : Registry) (name : String) (f : Metric → Except Fault Metric) :
    Except Fault Registry := do
  let ms ← r.metrics.mapM fun m => if m.name == name then f m else pure m
  return ⟨ms⟩

/-- Adds an amount to the single counter or gauge of a name. -/
def Registry.add (r : Registry) (name : String) (v : Float) : Except Fault Registry :=
  r.update name fun m =>
    match m.kind with
    | .counter t => return { m with kind := .counter (← t.add v) }
    | .gauge g => return { m with kind := .gauge (g + v) }
    | _ => return m

/-- Adds one to the single counter or gauge of a name. -/
def Registry.increment (r : Registry) (name : String) : Except Fault Registry :=
  r.update name fun m =>
    match m.kind with
    | .counter t => return { m with kind := .counter { t with whole := (t.whole + 1) % Nat.pow 2 64 } }
    | .gauge g => return { m with kind := .gauge (g + 1) }
    | _ => return m

/-- Adds one to the series of a label value in the counter family of a name. -/
def Registry.incrementSeries (r : Registry) (name label : String) : Except Fault Registry :=
  r.update name fun m =>
    match m.kind with
    | .counterVec series =>
      let bump := fun (t : Tally) => { t with whole := (t.whole + 1) % Nat.pow 2 64 }
      let series := if series.any (·.1 == label) then series.map fun (l, t) => (l, if l == label then bump t else t)
        else series ++ [(label, bump {})]
      return { m with kind := .counterVec series }
    | _ => return m

/-- One series: the metric name, its label pairs and its value. -/
structure Series where
  name : String
  labels : List (String × String)
  value : Float

/-- The series of a metric, by label value. -/
def Metric.series (m : Metric) : List Series :=
  let label := m.labels.headD ""
  let byValue := fun {β : Type} (xs : List (String × β)) =>
    xs.mergeSort fun a b => decide (a.1 ≤ b.1)
  match m.kind with
  | .counter t => [⟨m.name, [], t.value⟩]
  | .gauge g => [⟨m.name, [], g⟩]
  | .counterFunc v => [⟨m.name, [], v⟩]
  | .counterVec s => (byValue s).map fun (l, t) => ⟨m.name, [(label, l)], t.value⟩
  | .gaugeVec s => (byValue s).map fun (l, g) => ⟨m.name, [(label, l)], g⟩

/-- The metrics in name order. -/
def Registry.sorted (r : Registry) : List Metric := r.metrics.mergeSort fun a b => decide (a.name ≤ b.name)

/-- Every series, keyed `name` or `name{label=value}`. -/
def Registry.gather (r : Registry) : List (String × Float) :=
  (r.sorted.flatMap Metric.series).map fun s =>
    (s.name ++ (if s.labels.isEmpty then "" else
      "\x7b" ++ ",".intercalate (s.labels.map fun (k, v) => k ++ "=" ++ v) ++ "\x7d"), s.value)

/-- Numbers in the exposition format: shortest digits, positional for decimal
exponents `-4 … 5`, otherwise `d.ddde±xx`; zero of either sign is `0`. -/
def expositionNumber (x : Float) : String :=
  if x == 0 then "0" else Decimal.Notation.render ⟨-4, 5, 2, "NaN", "+Inf", "-Inf"⟩ x

/-- Escapes a help text: backslash and line feed. -/
def escapeHelp (s : String) : String :=
  String.join (s.toList.map fun c => if c == '\\' then "\\\\" else if c == '\n' then "\\n" else String.singleton c)

/-- Escapes a label value: backslash, quote and line feed. -/
def escapeLabel (s : String) : String :=
  String.join (s.toList.map fun c =>
    if c == '\\' then "\\\\" else if c == '"' then "\\\"" else if c == '\n' then "\\n" else String.singleton c)

/-- The exposition type of a metric. -/
def Metric.typeName (m : Metric) : String :=
  match m.kind with
  | .gauge _ | .gaugeVec _ => "gauge"
  | _ => "counter"

/-- The registry in the text exposition format; metrics without series are left out. -/
def Registry.exposition (r : Registry) : String :=
  String.join (r.sorted.map fun m =>
    let series := m.series
    if series.isEmpty then ""
    else
      "# HELP " ++ m.name ++ " " ++ escapeHelp m.help ++ "\n# TYPE " ++ m.name ++ " " ++ m.typeName ++ "\n" ++
        String.join (series.map fun s =>
          s.name ++ (if s.labels.isEmpty then "" else
            "\x7b" ++ ",".intercalate (s.labels.map fun (k, v) => k ++ "=\"" ++ escapeLabel v ++ "\"") ++ "\x7d") ++
          " " ++ expositionNumber s.value ++ "\n"))

end Airspace.Metrics
