import Airspace.Metrics.Registry

/-!
# The tracker's metrics

The tracker counts collision checks, collisions by obstacle, telemetry samples
received and obstacle position lookups. Its collector registers these four
metrics, in that order, and stops at the first refusal, keeping what it had
registered before. A metric already held under the same description is
reused when it can act as what is wanted — any counter or gauge for a single
counter, only a counter family for the collisions — and refused as of an
incompatible type otherwise.

Observations go through a recorder, which is off (observations are
dropped), unbound (a collector without metrics: observing is a fault), or
bound to the metrics of its registry.
-/

namespace Airspace.Metrics

/-- The count of collision checks. -/
def checksMetric : Metric :=
  ⟨"obstacle_collision_checks_total", "Total number of obstacle versus telemetry window evaluations.", [],
    .counter {}⟩

/-- The count of collisions, by obstacle. -/
def collisionsMetric : Metric :=
  ⟨"obstacle_collisions_total", "Total number of detected collisions, labeled by obstacle.", ["obstacle"],
    .counterVec []⟩

/-- The count of telemetry samples received. -/
def samplesMetric : Metric :=
  ⟨"telemetry_samples_total", "Total number of telemetry samples received.", [], .counter {}⟩

/-- The count of position lookups. -/
def queriesMetric : Metric :=
  ⟨"obstacle_position_queries_total", "Total number of obstacle position lookups served.", [], .counter {}⟩

/-- Why the collector could not register its metrics. -/
inductive CollectorError where
  /-- The registry refused a metric. -/
  | refused (e : RegisterError)
  /-- A metric of the name is held but cannot serve. -/
  | incompatible (name : String)

/-- The text of a collector error. -/
def CollectorError.message : CollectorError → String
  | .refused e => e.message
  | .incompatible name => "collector " ++ name ++ " already registered with incompatible type"

/-- Registers one metric, reusing a held one that `serves`. -/
def registerReusing (serves : Metric → Bool) (r : Registry) (m : Metric) : Except CollectorError Registry :=
  match r.register m with
  | .ok r => .ok r
  | .error (.alreadyRegistered held) => if serves held then .ok r else .error (.incompatible m.name)
  | .error e => .error (.refused e)

/-- Registers the four metrics in order: the registry afterwards, and the refusal if any. -/
def registerCollector (r : Registry) : Registry × Option CollectorError :=
  let steps : List (Metric × (Metric → Bool)) :=
    [(checksMetric, Metric.actsAsCounter), (collisionsMetric, Metric.isCounterVec),
     (samplesMetric, Metric.actsAsCounter), (queriesMetric, Metric.actsAsCounter)]
  steps.foldl (fun (acc : Registry × Option CollectorError) (m, serves) =>
    match acc with
    | (r, some e) => (r, some e)
    | (r, none) =>
      match registerReusing serves r m with
      | .ok r => (r, none)
      | .error e => (r, some e)) (r, none)

/-- Where observations go. -/
inductive Recorder where
  /-- Nowhere. -/
  | off
  /-- A collector without metrics. -/
  | unbound
  /-- The collector bound to the registry's metrics. -/
  | bound
  deriving DecidableEq

/-- Records one collision check of an obstacle, and the collision if it hit. -/
def Recorder.check (rec : Recorder) (r : Registry) (obstacle : Nat) (hit : Bool) : Except Fault Registry :=
  match rec with
  | .off => .ok r
  | .unbound => .error .missingMetric
  | .bound => do
    let r ← r.increment checksMetric.name
    if hit then r.incrementSeries collisionsMetric.name (toString obstacle) else pure r

/-- Records `n` telemetry samples. -/
def Recorder.samples (rec : Recorder) (r : Registry) (n : Int) : Except Fault Registry :=
  match rec with
  | .off => .ok r
  | .unbound => .error .missingMetric
  | .bound => r.add samplesMetric.name (Float.ofInt n)

/-- Records `n` position lookups. -/
def Recorder.queries (rec : Recorder) (r : Registry) (n : Int) : Except Fault Registry :=
  match rec with
  | .off => .ok r
  | .unbound => .error .missingMetric
  | .bound => r.add queriesMetric.name (Float.ofInt n)

/-- The page a recorder serves in the text exposition format. An unbound
recorder serves the process-wide registry, which holds none of the tracker's
metrics. -/
def Recorder.page (rec : Recorder) (r : Registry) : Except Fault String :=
  match rec with
  | .off => .error .missingMetric
  | .unbound => .ok ({} : Registry).exposition
  | .bound => .ok r.exposition

end Airspace.Metrics
