import WidgetFlow.Journal.Notice
import WidgetFlow.Text.Order

/-!
# Metrics

The counts that are kept of an analysis. Each metric has a name and a series for every combination
of label values that has occurred; the sizes of the graph have no labels and are always there. All
of them are counted off the journal.
-/

namespace WidgetFlow.Metrics

/-- The metrics that are kept. -/
inductive Metric where
  | bindings
  | classificationViolations
  | graphEdges
  | graphNodes
  | graphOperations
  | graphWindows
  | listenerWiring
  | phaseDuration
  | reachQueries
  | unresolvedEntities
  deriving DecidableEq, Inhabited

/-- How the value of a metric changes. -/
inductive MetricType where
  | gauge
  | counter
  | histogram
  deriving DecidableEq, Inhabited

namespace Metric

/-- The metrics in the order of their names. -/
def all : List Metric :=
  [bindings, classificationViolations, graphEdges, graphNodes, graphOperations, graphWindows,
   listenerWiring, phaseDuration, reachQueries, unresolvedEntities]

/-- The name of a metric. -/
def name : Metric → String
  | bindings => "guiflow_bindings"
  | classificationViolations => "guiflow_classification_violations_total"
  | graphEdges => "guiflow_graph_edges"
  | graphNodes => "guiflow_graph_nodes"
  | graphOperations => "guiflow_graph_operations"
  | graphWindows => "guiflow_graph_windows"
  | listenerWiring => "guiflow_listener_wiring_total"
  | phaseDuration => "guiflow_phase_duration_seconds"
  | reachQueries => "guiflow_reach_queries_total"
  | unresolvedEntities => "guiflow_unresolved_entities_total"

/-- What a metric says. -/
def help : Metric → String
  | bindings => "Number of (operation, node) pairs per solution map"
  | classificationViolations => "Producer flows with no classification entry"
  | graphEdges => "Number of edges in the flow graph"
  | graphNodes => "Number of nodes in the flow graph"
  | graphOperations => "Number of operation nodes in the flow graph"
  | graphWindows => "Number of window nodes in the flow graph"
  | listenerWiring => "Listener handler wiring requests by outcome"
  | phaseDuration => "Duration of analysis phases"
  | reachQueries => "Reachability closures computed"
  | unresolvedEntities => "Flows skipped because an entity could not be resolved"

/-- How a metric changes. -/
def type : Metric → MetricType
  | bindings | graphEdges | graphNodes | graphOperations | graphWindows => .gauge
  | classificationViolations | listenerWiring | reachQueries | unresolvedEntities => .counter
  | phaseDuration => .histogram

end Metric

/-- One series of a metric: the metric and its labels, in the order of their names. -/
structure Series where
  metric : Metric
  labels : List (String × String) := []
  deriving DecidableEq, Inhabited

/-- A change to a series. -/
inductive Sample where
  | put (series : Series) (value : Nat)
  | count (series : Series)
  deriving DecidableEq, Inhabited

/-- The word for a wiring outcome. -/
def outcomeName : WiringOutcome → String
  | .wired => "wired"
  | .repeated => "memo_hit"
  | .skipped => "skipped"

/-- The samples of the size of a graph. -/
def graphSamples (t : GraphStats) : List Sample :=
  [.put ⟨.graphNodes, []⟩ t.nodes, .put ⟨.graphEdges, []⟩ t.edges,
   .put ⟨.graphOperations, []⟩ t.operations, .put ⟨.graphWindows, []⟩ t.windows]

/-- What a notice adds to the metrics. -/
def samples : Notice → List Sample
  | .closureComputed forward =>
    [.count ⟨.reachQueries, [("direction", if forward then "forward" else "backward")]⟩]
  | .unclassifiedFlow _ _ op role =>
    [.count ⟨.classificationViolations, [("op", op), ("role", role)]⟩]
  | .handlersUnresolved .. => [.count ⟨.unresolvedEntities, [("entity", "dispatch_target")]⟩]
  | .eventSkipped event _ => [.count ⟨.unresolvedEntities, [("entity", event)]⟩]
  | .wiring outcome => [.count ⟨.listenerWiring, [("outcome", outcomeName outcome)]⟩]
  | .graphComplete t | .graphSize t => graphSamples t
  | .passEnded name | .phaseEnded name => [.count ⟨.phaseDuration, [("phase", name)]⟩]
  | .mapSize name pairs => [.put ⟨.bindings, [("map", name)]⟩ pairs]
  | _ => []

/-- The value of every series that exists. -/
structure Registry where
  series : List (Series × Nat) := []
  deriving DecidableEq, Inhabited

/-- Changes the value of a series, which starts at zero. -/
def update (s : Series) (f : Nat → Nat) : List (Series × Nat) → List (Series × Nat)
  | [] => [(s, f 0)]
  | (t, v) :: rest => if t = s then (t, f v) :: rest else (t, v) :: update s f rest

namespace Registry

/-- The metrics before anything has happened. -/
def initial : Registry :=
  ⟨[Metric.graphNodes, .graphEdges, .graphOperations, .graphWindows].map fun m => (⟨m, []⟩, 0)⟩

/-- The metrics after one more sample. -/
def add (r : Registry) : Sample → Registry
  | .put s v => ⟨update s (fun _ => v) r.series⟩
  | .count s => ⟨update s (· + 1) r.series⟩

/-- The metrics of a journal, which is given oldest first. -/
def ofJournal (notices : List Notice) : Registry :=
  (notices.flatMap samples).foldl add initial

/-- The series of a metric with their values, in the order of their label values. -/
def ofMetric (r : Registry) (m : Metric) : List (Series × Nat) :=
  (r.series.filter fun x => x.1.metric = m).mergeSort fun a b =>
    Text.inOrder (a.1.labels.map (·.2)) (b.1.labels.map (·.2))

end Registry

end WidgetFlow.Metrics
