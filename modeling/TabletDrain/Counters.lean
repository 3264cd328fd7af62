import TabletDrain.Pass.Cluster
import TabletDrain.Text.Shortest

/-! What the operator counts, and the text in which it is collected: hand-overs by shard and
outcome, the duration of reconciles by controller, and their failures by controller and cause. -/
namespace TabletDrain

structure Histogram where
  count : Nat
  /-- Their sum in seconds. -/
  sum : Float
  /-- How many fell into each bucket, and none lower. The last bucket has no bound. -/
  buckets : List Nat

namespace Histogram

/-- The bounds of the buckets, in milliseconds. -/
def bounds : List Nat := (List.range 17).map fun n => Nat.pow 2 n

def empty : Histogram := ⟨0, 0, List.replicate (bounds.length + 1) 0⟩

def countIn (milliseconds : Nat) : List Nat → List Nat → List Nat
  | bound :: bounds, n :: counts =>
    if milliseconds ≤ bound then (n + 1) :: counts else n :: countIn milliseconds bounds counts
  | [], n :: counts => (n + 1) :: counts
  | _, [] => []

def observe (histogram : Histogram) (milliseconds : Nat) : Histogram where
  count := histogram.count + 1
  sum := histogram.sum + Float.ofNat milliseconds / 1000
  buckets := countIn milliseconds bounds histogram.buckets

end Histogram

structure Counters where
  reparents : List ((ShardLabels × ReparentOutcome) × Nat)
  durations : List (String × Histogram)
  failures : List ((String × String) × Nat)

namespace Counters

def empty : Counters := ⟨[], [], []⟩

def change {κ ν : Type} [DecidableEq κ] (key : κ) (initial : ν) (f : ν → ν) :
    List (κ × ν) → List (κ × ν)
  | [] => [(key, f initial)]
  | (k, value) :: rest =>
    if k = key then (k, f value) :: rest else (k, value) :: change key initial f rest

def countReparent (counters : Counters) (labels : ShardLabels) (outcome : ReparentOutcome) :
    Counters :=
  { counters with reparents := change (labels, outcome) 0 (· + 1) counters.reparents }

def observe (counters : Counters) (controller : String) (milliseconds : Nat) : Counters :=
  { counters with
    durations := change controller .empty (·.observe milliseconds) counters.durations }

def countFailure (counters : Counters) (controller label : String) : Counters :=
  { counters with failures := change (controller, label) 0 (· + 1) counters.failures }

def reparentName : String := "shard_drain_planned_reparent"

def durationName : String := "shard_drain_reconcile_duration_seconds"

def failureName : String := "shard_drain_reconcile_errors"

def labelText (labels : List (String × String)) : String :=
  "\x7b"
    ++ String.intercalate "," (labels.map fun (name, value) => name ++ "=\"" ++ value ++ "\"")
    ++ "\x7d"

def sample (name : String) (labels : List (String × String)) (value : String) : String :=
  name ++ labelText labels ++ " " ++ value

def introduction (name help kind : String) : List String :=
  ["# HELP " ++ name ++ " " ++ help ++ ".", "# TYPE " ++ name ++ " " ++ kind]

def reparentSample (entry : (ShardLabels × ReparentOutcome) × Nat) : String :=
  let ((labels, outcome), n) := entry
  sample (reparentName ++ "_total")
    [("cluster", labels.cluster), ("keyspace", labels.keyspace), ("shard", labels.shard),
      ("result", outcome.name)]
    (Text.decimal n)

/-- The bound of a bucket in seconds. -/
def boundText (bound : Nat) : String := Text.shortest (Float.ofNat bound / 1000)

/-- The line of the durations up to a bound. -/
def bucketSample (labels : List (String × String)) (bound : String) (n : Nat) : String :=
  sample (durationName ++ "_bucket") (("le", bound) :: labels) (Text.decimal n)

def bucketSamples (labels : List (String × String)) (below : Nat) :
    List Nat → List Nat → List String
  | bound :: bounds, n :: counts =>
    bucketSample labels (boundText bound) (below + n)
      :: bucketSamples labels (below + n) bounds counts
  | [], n :: _ => [bucketSample labels "+Inf" (below + n)]
  | _, [] => []

def durationCountSample (entry : String × Histogram) : String :=
  sample (durationName ++ "_count") [("controller", entry.1)] (Text.decimal entry.2.count)

def durationSamples (entry : String × Histogram) : List String :=
  let labels := [("controller", entry.1)]
  sample (durationName ++ "_sum") labels (Text.shortest entry.2.sum) :: durationCountSample entry
    :: bucketSamples labels 0 Histogram.bounds entry.2.buckets

def failureSample (entry : (String × String) × Nat) : String :=
  let ((controller, label), n) := entry
  sample (failureName ++ "_total") [("controller", controller), ("kind", label)] (Text.decimal n)

def lines (counters : Counters) : List String :=
  introduction reparentName "Planned reparents attempted to drain a primary tablet" "counter"
    ++ counters.reparents.map reparentSample
    ++ introduction durationName "Duration of reconcile loops in seconds" "histogram"
    ++ counters.durations.flatMap durationSamples
    ++ introduction failureName "Total number of reconcile errors" "counter"
    ++ counters.failures.map failureSample
    ++ ["# EOF"]

end Counters

end TabletDrain
