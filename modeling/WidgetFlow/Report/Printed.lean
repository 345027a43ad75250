import WidgetFlow.Report

/-!
# Printed reports

The result of an analysis as text for people.
-/

namespace WidgetFlow.Report

open Analysis (Result)

/-- A text filled up with blanks to a width. -/
def padded (width : Nat) (s : String) : String :=
  s ++ String.ofList (List.replicate (width - s.length) ' ')

/-- The lines that every report of a solve begins with. -/
def heading (runId : String) (r : Result) : List String :=
  [ "GUI Flow Solver - Solution Report"
  , "================================="
  , "Run: " ++ runId
  , "Graph: " ++ toString r.graph.nodes ++ " nodes, " ++ toString r.graph.edges ++ " edges, "
      ++ toString r.graph.operations ++ " operations, " ++ toString r.graph.windows ++ " windows"
  , "Events: " ++ toString r.events.events ++ " consumed, " ++ toString r.events.skipped
      ++ " skipped"
  , "Listeners: " ++ toString r.dispatch.deferred ++ " deferred, " ++ toString r.dispatch.wired
      ++ " wired, " ++ toString r.dispatch.memoHits ++ " memo hits"
  , "" ]

/-- The line of a map with its number of pairs. -/
def countLine (n : MapName) (count : Nat) : String := padded 24 n.text ++ " " ++ toString count

/-- The labels of one row of a map. -/
def rowLines (s : Store) (key : NodeId) (ids : List NodeId) : List String :=
  ("  " ++ s.label key) :: ids.map fun id => "    <- " ++ s.label id

/-- The labels of a map under its name; an empty map is passed over. -/
def mapLines (s : Store) (n : MapName) (b : Bindings) : List String :=
  if b.rows.isEmpty then []
  else "" :: (n.text ++ ":") :: b.rows.flatMap fun (key, ids) => rowLines s key ids.toList

/-- The labels of all maps. -/
def detailLines (s : Store) (solution : Solution) : List String :=
  MapName.all.flatMap fun n => mapLines s n (solution.get n)

/-- The lines of a report of a solve; `verbose` adds the labels of all pairs. -/
def solveLines (runId : String) (verbose : Bool) (r : Result) : List String :=
  heading runId r ++
    match r.solution with
    | none => ["No solution computed"]
    | some s =>
      s.counts.map (fun (n, count) => countLine n count)
        ++ (if verbose then detailLines r.store s else [])

/-- The lines of a recursive flow with its number. -/
def flowLines (number : Nat) (f : RecursiveFlow) : List String :=
  ("  " ++ toString number ++ ". " ++ toString f.nodes.length ++ " nodes")
    :: f.labels.map fun l => "       " ++ l

/-- The lines of a report of recursive flows. -/
def cycleLines (r : Result) : List String :=
  let flows := r.cycles.getD []
  [ "GUI Flow Solver - Recursive Flows"
  , "=================================" ] ++
    if flows.isEmpty then ["✓ No recursive flows"]
    else ("Found " ++ toString flows.length ++ " recursive flow(s):")
      :: (flows.zipIdx 1).flatMap fun (f, number) => flowLines number f

/-- Lines as one text. -/
def text (lines : List String) : String := String.join (lines.map (· ++ "\n"))

/-- The report of a solve. -/
def solveText (runId : String) (verbose : Bool) (r : Result) : String :=
  text (solveLines runId verbose r)

/-- The report of recursive flows. -/
def cyclesText (r : Result) : String := text (cycleLines r)

end WidgetFlow.Report
