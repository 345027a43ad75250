import WidgetFlow.Facts.Reader
import WidgetFlow.Facts.Replay
import WidgetFlow.Files
import WidgetFlow.Graph.Cycle
import WidgetFlow.Listener.Builtin
import WidgetFlow.Solver.Passes

/-!
# Analyses

One analysis from the files to the result: the listener table and the facts are read, the flow graph
is built from them, the listener work that waits is done, and then the graph is solved or searched
for recursive flows.
-/

namespace WidgetFlow.Analysis

open Work

/-- What is to be analyzed, and how. -/
structure Request where
  facts : String
  /-- The path of the listener table; none selects the built-in one. -/
  listeners : String := ""
  strict : Bool := false
  workers : Int := 1
  /-- Looks for recursive flows instead of solving. -/
  findCycles : Bool := false
  /-- Why the analysis is run, for the log. -/
  reason : String := ""
  deriving DecidableEq, Inhabited

/-- Why the inputs of an analysis cannot be read. -/
inductive InputFault where
  | factsUnopened (path : String) (fault : PathFault)
  | factsUnreadable (path : String) (fault : DocumentFault)
  | factsDirectory (path : String)
  | tableUnopened (path : String) (fault : PathFault)
  | tableDirectory (path : String)
  | tableUnusable (fault : ListenerTable.Fault)
  deriving DecidableEq, Inhabited

/-- The wording of a fault. -/
def InputFault.message : InputFault → String
  | factsUnopened path fault => "open facts: open " ++ path ++ ": " ++ fault.reason
  | factsUnreadable path fault => path ++ ": decode facts: " ++ fault.message
  | factsDirectory path =>
    path ++ ": decode facts: yaml: input error: read " ++ path ++ ": is a directory"
  | tableUnopened path fault => "open listener spec: open " ++ path ++ ": " ++ fault.reason
  | tableDirectory path => "read listener spec: read " ++ path ++ ": is a directory"
  | tableUnusable fault => fault.message

/-- Why an analysis failed. -/
inductive Failure where
  | input (fault : InputFault)
  | work (fault : Fault)
  deriving DecidableEq, Inhabited

/-- The wording of a failure. -/
def Failure.message : Failure → String
  | input fault => fault.message
  | work fault => fault.message

/-- What an analysis found. -/
structure Result where
  graph : GraphStats
  events : IntakeStats
  dispatch : DispatchStats
  /-- The solution, unless recursive flows were looked for. -/
  solution : Option Solution := none
  /-- The recursive flows, if they were looked for. -/
  cycles : Option (List RecursiveFlow) := none
  store : Store
  deriving Inhabited

/-- An analysis that ended: what happened, and how it ended. -/
structure Outcome where
  journal : List Notice
  result : Except Failure Result
  deriving Inhabited

/-- Reads the listener table. -/
def loadTable (files : Files) (path : String) : Except InputFault ListenerTable :=
  if path = "" then .ok .builtin
  else match files.named path with
    | .error fault => .error (.tableUnopened path fault)
    | .ok .directory => .error (.tableDirectory path)
    | .ok (.file text) =>
      match ListenerTable.read text with
      | .ok t => .ok t
      | .error e => .error (.tableUnusable e)

/-- Reads the facts. -/
def loadFacts (files : Files) (path : String) : Except InputFault Facts :=
  match files.named path with
  | .error fault => .error (.factsUnopened path fault)
  | .ok .directory => .error (.factsDirectory path)
  | .ok (.file text) =>
    match Facts.read text with
    | .ok f => .ok f
    | .error e => .error (.factsUnreadable path e)

/-- Reads the inputs, the listener table first. -/
def load (files : Files) (q : Request) : Except InputFault (ListenerTable × Facts) :=
  match loadTable files q.listeners with
  | .error e => .error e
  | .ok table =>
    match loadFacts files q.facts with
    | .error e => .error e
    | .ok facts => .ok (table, facts)

/-- The number of steps that the log counts. -/
def Request.steps (q : Request) : Nat := if q.findCycles then 3 else 4

/-- The program that facts and a listener table describe. -/
def programOf (table : ListenerTable) (facts : Facts) : Program :=
  { resolver := ⟨⟨facts.classes, facts.resources⟩, table⟩ }

/-- Builds the graph and does the listener work that waits. -/
def build (q : Request) (canceled : Bool) (p : Program) (facts : Facts) : Work Unit := do
  note (.factsLoaded q.steps facts.classes.length facts.events.length
    p.resolver.table.registrations.length)
  note (.graphBuilding q.steps)
  within .building (facts.replay p canceled)
  note (.phaseEnded "build")
  note (.listenersResolving q.steps)
  Intake.complete p canceled
  note (.phaseEnded "complete")

/-- Solves the graph. -/
def solve (q : Request) (canceled : Bool) (p : Program) : Work Solution := do
  note (.solvingStarted q.steps)
  let solution ← within .solving (Solve.run ⟨.default, q.strict⟩ p.resolver canceled)
  note (.solutionFound q.steps (solution.count .solutionReceivers)
    (solution.count .solutionParameters) (solution.count .solutionListeners))
  return solution

/-- Looks for recursive flows. -/
def findCycles (q : Request) : Work (List RecursiveFlow) := do
  let cycles := (← store).recursiveFlows
  note (.cyclesFound q.steps cycles.length)
  return cycles

/-- What was found, with the final counts. -/
def conclude (q : Request) (solution : Option Solution) (cycles : Option (List RecursiveFlow)) :
    Work Result := do
  let w ← get
  note (.analysisComplete q.reason w.store.stats.nodes w.store.stats.edges)
  return { graph := w.store.stats, events := w.intake.stats, dispatch := w.dispatcher.stats
           solution, cycles, store := w.store }

/-- The whole analysis, once its inputs are read. -/
def analyze (q : Request) (canceled : Bool) (p : Program) (facts : Facts) : Work Result := do
  build q canceled p facts
  if q.findCycles then conclude q none (some (← findCycles q))
  else conclude q (some (← solve q canceled p)) none

/-- Runs an analysis. -/
def run (files : Files) (canceled : Bool) (q : Request) : Outcome :=
  let opening : List Notice := [.factsLoading q.steps, .analysisStarted q.reason q.facts]
  match load files q with
  | .error e => ⟨opening.reverse, .error (.input e)⟩
  | .ok (table, facts) =>
    match analyze q canceled (programOf table facts) facts { journal := opening } with
    | .ok r w => ⟨w.journal.reverse, .ok r⟩
    | .error f w => ⟨w.journal.reverse, .error (.work f)⟩

end WidgetFlow.Analysis
