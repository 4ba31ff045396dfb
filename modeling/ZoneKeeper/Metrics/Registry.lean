import ZoneKeeper.Duration
import ZoneKeeper.Failure
import ZoneKeeper.Table

/-!
# Metrics

What is counted about the work of the controller.  Nothing in the controller reads it back.
-/

namespace ZoneKeeper

/-- How many durations were at most as long as each bound, how many there were, and their sum. -/
structure Histogram where
  atMost : List Nat
  count : Nat := 0
  sum : Float := 0

namespace Histogram

/-- The bounds, in nanoseconds. -/
def bounds : List Nat :=
  [500000, 1000000, 5000000, 10000000, 50000000, 100000000, 500000000, 1000000000, 5000000000]

def empty : Histogram :=
  { atMost := bounds.map fun _ => 0 }

def observe (histogram : Histogram) (duration : Duration) : Histogram where
  atMost := (histogram.atMost.zip bounds).map fun (count, bound) =>
    if duration.nanoseconds ≤ bound then count + 1 else count
  count := histogram.count + 1
  sum := histogram.sum + duration.toFloat

end Histogram

inductive Operation where
  | created
  | deleted
  deriving DecidableEq, Repr

def Operation.name : Operation → String
  | created => "created"
  | deleted => "deleted"

structure PairCount where
  first : String
  second : String
  count : Nat
  deriving DecidableEq, Repr

/-- Counters by their labels.  Two labels tell counters apart only by what they read one behind the
other; a counter keeps the labels that it first had. -/
structure Metrics where
  passes : Table String PairCount := {}
  durations : Table String Histogram := {}
  requeues : Table String Nat := {}
  handlerErrors : Table String PairCount := {}
  queueDepth : Nat := 0

namespace Metrics

def increment (counters : Table String Nat) (label : String) : Table String Nat :=
  counters.update label fun count => count.getD 0 + 1

def incrementPair (counters : Table String PairCount) (first second : String) :
    Table String PairCount :=
  counters.update (first ++ second) fun found =>
    let pair := found.getD ⟨first, second, 0⟩
    { pair with count := pair.count + 1 }

def recordPass (metrics : Metrics) (kind outcome : String) (elapsed : Duration) : Metrics :=
  { metrics with
    passes := incrementPair metrics.passes kind outcome
    durations := metrics.durations.update kind fun histogram =>
      (histogram.getD .empty).observe elapsed }

def recordRequeue (metrics : Metrics) (kind : String) : Metrics :=
  { metrics with requeues := increment metrics.requeues kind }

def recordHandlerError (metrics : Metrics) (kind operation : String) : Metrics :=
  { metrics with handlerErrors := incrementPair metrics.handlerErrors kind operation }

def setQueueDepth (metrics : Metrics) (depth : Nat) : Metrics :=
  { metrics with queueDepth := depth }

end Metrics

end ZoneKeeper
