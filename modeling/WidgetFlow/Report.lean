import WidgetFlow.Analysis
import WidgetFlow.Json.Value
import WidgetFlow.Time.Duration

/-!
# Reports

The result of an analysis as a document that stands on its own: node ids come with their labels.
-/

namespace WidgetFlow

open Analysis (Result)

/-- What only the outer world knows of a run. -/
structure RunTag where
  id : String := ""
  /-- How long the run took, in nanoseconds. -/
  elapsed : Int := 0
  deriving DecidableEq, Inhabited

/-- One key of a solution map with the ids bound to it. -/
structure Report.Entry where
  key : NodeId
  ids : List NodeId
  deriving DecidableEq, Inhabited

/-- The result of an analysis, ready to be written. -/
structure Report where
  runId : String
  graph : GraphStats
  events : IntakeStats
  dispatch : DispatchStats
  /-- The number of pairs of every map, if there is a solution. -/
  counts : Option (List (MapName × Nat)) := none
  /-- The entries of every map, if there is a solution. -/
  maps : Option (List (MapName × List Report.Entry)) := none
  /-- The recursive flows, if they were looked for. -/
  cycles : Option (List RecursiveFlow) := none
  /-- The labels of all ids in the maps, in ascending order. -/
  nodes : List (NodeId × String) := []
  elapsed : String
  deriving DecidableEq, Inhabited

namespace Report

/-- The entries of a map. -/
def entries (b : Bindings) : List Entry := b.rows.map fun (k, ids) => ⟨k, ids.toList⟩

/-- All ids of an entry. -/
def Entry.all (e : Entry) : List NodeId := e.key :: e.ids

/-- All ids that occur in the maps of a solution. -/
def occurring (s : Solution) : NodeSet :=
  .ofList (MapName.all.flatMap fun n => (entries (s.get n)).flatMap Entry.all)

/-- The report of a result. -/
def ofResult (tag : RunTag) (r : Result) : Report :=
  { runId := tag.id
    graph := r.graph
    events := r.events
    dispatch := r.dispatch
    counts := r.solution.map (·.counts)
    maps := r.solution.map fun s => MapName.all.map fun n => (n, entries (s.get n))
    cycles := r.cycles
    nodes := r.solution.elim [] fun s => (occurring s).ids.map fun id => (id, r.store.label id)
    elapsed := Duration.text tag.elapsed }

end Report

end WidgetFlow
