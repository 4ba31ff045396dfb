import ZoneKeeper.Metrics.Registry
import ZoneKeeper.Number.Shortest

/-!
# The text of the metrics

Metrics are served as a text: families by their names, and in each family the samples by the values
of their labels.  A family without samples does not appear.
-/

namespace ZoneKeeper

/-- One line of the text: the family name with a suffix, labels, and a value. -/
structure Sample where
  suffix : String := ""
  labels : List (String × String) := []
  value : String

structure Family where
  name : String
  help : String
  type : String
  samples : List Sample

namespace Sample

/-- A backslash stands before a quote and a backslash in the value of a label. -/
def escape (char : Char) : List Char :=
  match char with
  | '\\' => ['\\', '\\']
  | '"' => ['\\', '"']
  | '\n' => ['\\', 'n']
  | other => [other]

def label (name value : String) : String :=
  name ++ "=\"" ++ String.ofList (value.toList.flatMap escape) ++ "\""

def line (family : String) (sample : Sample) : String :=
  let labels := sample.labels.map fun (name, value) => label name value
  family ++ sample.suffix ++
    (if labels.isEmpty then "" else "\x7b" ++ ",".intercalate labels ++ "\x7d") ++
    " " ++ sample.value

end Sample

namespace Family

def lines (family : Family) : List String :=
  if family.samples.isEmpty then []
  else
    [ "# HELP " ++ family.name ++ " " ++ family.help,
      "# TYPE " ++ family.name ++ " " ++ family.type ] ++
      family.samples.map (Sample.line family.name)

/-- Counters with two labels, by the values of the labels. -/
def ofPairs (first second : String) (counters : Table String PairCount) : List Sample :=
  let ordered := counters.values.mergeSort fun left right =>
    left.first < right.first || left.first = right.first && left.second ≤ right.second
  ordered.map fun pair =>
    { labels := [(first, pair.first), (second, pair.second)]
      value := floatText pair.count.toFloat }

/-- Values with one label, by the value of the label. -/
def byLabel {α : Type} (values : Table String α) : List (String × α) :=
  values.entries.mergeSort fun left right => left.1 ≤ right.1

def ofHistogram (kind : String) (histogram : Histogram) : List Sample :=
  let bucket (bound : String) (count : Nat) : Sample :=
    { suffix := "_bucket", labels := [("kind", kind), ("le", bound)]
      value := floatText count.toFloat }
  ((histogram.atMost.zip Histogram.bounds).map fun (count, bound) =>
    bucket (floatText (Duration.toFloat ⟨bound⟩)) count) ++
  [ bucket "+Inf" histogram.count,
    { suffix := "_sum", labels := [("kind", kind)], value := floatText histogram.sum },
    { suffix := "_count", labels := [("kind", kind)]
      value := floatText histogram.count.toFloat } ]

end Family

namespace Metrics

def families (metrics : Metrics) : List Family :=
  [ { name := "corezone_handler_errors_total"
      help := "Total number of handler failures by kind and operation"
      type := "counter"
      samples := Family.ofPairs "kind" "operation" metrics.handlerErrors },
    { name := "corezone_queue_depth"
      help := "Number of keys waiting in the change queue"
      type := "gauge"
      samples := [{ value := floatText metrics.queueDepth.toFloat }] },
    { name := "corezone_reconciliation_duration_seconds"
      help := "Duration of reconcile passes in seconds by kind"
      type := "histogram"
      samples := (Family.byLabel metrics.durations).flatMap fun (kind, histogram) =>
        Family.ofHistogram kind histogram },
    { name := "corezone_reconciliations_total"
      help := "Total number of reconcile passes by kind and outcome"
      type := "counter"
      samples := Family.ofPairs "kind" "outcome" metrics.passes },
    { name := "corezone_requeues_total"
      help := "Total number of rate-limited requeues by kind"
      type := "counter"
      samples := (Family.byLabel metrics.requeues).map fun (kind, count) =>
        { labels := [("kind", kind)], value := floatText count.toFloat } } ]

/-- The lines of all families. -/
def exposition (metrics : Metrics) : String :=
  String.join ((metrics.families.flatMap Family.lines).map fun line => line ++ "\n")

end Metrics

end ZoneKeeper
