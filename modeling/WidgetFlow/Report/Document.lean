import WidgetFlow.Report

/-!
# Reports as documents

How a report is written for other programs. Parts that are empty are left out.
-/

namespace WidgetFlow.Report

/-- A count as a field. -/
def countField (name : String) (n : Nat) : String × Json := (name, .int n)

/-- The counts of the graph. -/
def graphJson (t : GraphStats) : Json :=
  .object [countField "nodes" t.nodes, countField "edges" t.edges,
    countField "operations" t.operations, countField "windows" t.windows,
    countField "synthetic" t.synthetic]

/-- The counts of consumed events. -/
def eventsJson (t : IntakeStats) : Json :=
  .object [countField "events" t.events, countField "edges" t.edges,
    countField "operations" t.operations, countField "registrations" t.registrations,
    countField "overrides" t.overrides, countField "skipped" t.skipped]

/-- The counts of listener work. -/
def dispatchJson (t : DispatchStats) : Json :=
  .object [countField "immediate" t.immediate, countField "deferred" t.deferred,
    countField "resolved" t.resolved, countField "wired" t.wired,
    countField "memoHits" t.memoHits, countField "skipped" t.skipped,
    countField "unresolved" t.unresolved, countField "edges" t.edges]

/-- A list of ids. -/
def idsJson (ids : List NodeId) : Json := .array (ids.map .int)

/-- An entry of a map. -/
def Entry.json (e : Entry) : Json := .object [("key", .int e.key), ("ids", idsJson e.ids)]

/-- A recursive flow. -/
def flowJson (f : RecursiveFlow) : Json :=
  .object [("nodes", idsJson f.nodes), ("labels", .array (f.labels.map .text))]

/-- A field that is left out if it has no value. -/
def optionalField (name : String) (j : Option Json) : List (String × Json) :=
  j.toList.map fun j => (name, j)

/-- The report as a document. -/
def json (r : Report) : Json :=
  let counts := r.counts.map fun l => Json.sorted (l.map fun (n, c) => (n.text, .int c))
  let maps := r.maps.map fun l =>
    Json.sorted (l.map fun (n, es) => (n.text, .array (es.map Entry.json)))
  let cycles := match r.cycles with
    | some (f :: fs) => some (Json.array ((f :: fs).map flowJson))
    | _ => none
  let nodes := if r.nodes.isEmpty then none
    else some (Json.sorted (r.nodes.map fun (id, label) => (toString id, .text label)))
  .object ([("runId", .text r.runId), ("graph", graphJson r.graph), ("events", eventsJson r.events),
      ("dispatch", dispatchJson r.dispatch)]
    ++ optionalField "counts" counts ++ optionalField "maps" maps
    ++ optionalField "cycles" cycles ++ optionalField "nodes" nodes
    ++ [("elapsed", .text r.elapsed)])

/-- The text of the document. -/
def document (r : Report) : String := r.json.document

end WidgetFlow.Report
