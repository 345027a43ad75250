import WidgetFlow.Journal.Notice
import WidgetFlow.Log.Call

/-!
# The log of a journal

How notices are worded as log records: the component that speaks, the level, the message and the
attributes. What only the outer world knows of a record (the time of day, how long things took, the
id of the run) is supplied when the log is written.
-/

namespace WidgetFlow

open Log (Attr Level Record Value)

/-- What the outer world adds to log records. -/
structure LogContext where
  clock : String := "00:00:00"
  elapsed : Int := 0
  runId : String := ""
  deriving Inhabited

/-- A record of a component, before its common attributes are added. -/
structure Statement where
  component : String
  level : Level
  message : String
  attrs : List (String × Value) := []
  deriving Inhabited

/-- A count as an attribute. -/
def Log.Value.nat (n : Nat) : Value := .int n

/-- How far an analysis or a solve has come. -/
def stepText (index total : Nat) : String :=
  "[" ++ toString index ++ "/" ++ toString total ++ "] "

/-- The record of a notice; some notices are only counted. -/
def Notice.statement? (c : LogContext) : Notice → Option Statement
  | closureComputed _ | wiring _ | passEnded _ | mapSize .. | graphSize _ | phaseEnded _ => none
  | unclassifiedFlow strict object op role =>
    if strict then none
    else some ⟨"classify", Level.warn, "Dropping unclassified flow",
      [("object", .word object), ("op", .word op), ("role", .word role)]⟩
  | flushing round registrations wirings =>
    some ⟨"listener", Level.debug, "Flushing listener work",
      [("round", .nat round), ("registrations", .nat registrations), ("wirings", .nat wirings)]⟩
  | handlersUnresolved className methods =>
    some ⟨"listener", Level.warn, "Skipping unresolved handler",
      [("class", .string className), ("methods", .list methods)]⟩
  | eventSkipped event fault =>
    some ⟨"builder", Level.warn, "Skipping event",
      [("event", .string event), ("error", .failure fault.message)]⟩
  | operationCreated op kind site =>
    some ⟨"builder", Level.trace, "Created operation",
      [("op", .int op), ("kind", .word kind), ("site", .site site)]⟩
  | overrideWired view handler =>
    some ⟨"builder", Level.debug, "Wired view context menu",
      [("view", .string view), ("handler", .string handler)]⟩
  | graphComplete t =>
    some ⟨"builder", Level.info, "Graph complete",
      [("nodes", .nat t.nodes), ("edges", .nat t.edges), ("operations", .nat t.operations),
       ("windows", .nat t.windows)]⟩
  | bindingSkipped window fault =>
    some ⟨"facts", Level.warn, "Skipping window binding",
      [("window", .string window), ("error", .failure fault.message)]⟩
  | rootSkipped window fault =>
    some ⟨"facts", Level.warn, "Skipping window root",
      [("window", .string window), ("error", .failure fault.message)]⟩
  | operationMissing site =>
    some ⟨"facts", Level.warn, "Skipping operation event without an operation",
      [("site", .site site)]⟩
  | eventUnknown kind site =>
    some ⟨"facts", Level.warn, "Skipping unknown event", [("kind", .word kind), ("site", .site site)]⟩
  | factsReplayed events bindings =>
    some ⟨"facts", Level.debug, "Replayed facts",
      [("events", .nat events), ("bindings", .nat bindings)]⟩
  | passStarted index total name =>
    some ⟨"solver", Level.info, stepText index total ++ "Running " ++ name ++ " pass", []⟩
  | passFinished index total name =>
    some ⟨"solver", Level.debug, stepText index total ++ "Finished " ++ name ++ " pass",
      [("elapsed", .duration c.elapsed)]⟩
  | windowsPrewired edges =>
    some ⟨"solver", Level.debug, "Pre-wired bound windows", [("edges", .nat edges)]⟩
  | producersClosed count =>
    some ⟨"solver", Level.debug, "Computed producer closures", [("producers", .nat count)]⟩
  | windowOutsideReceiver window op =>
    some ⟨"solver", Level.trace, "Window reaches operation outside its receiver",
      [("window", .string window), ("op", .string op)]⟩
  | windowIgnored window op =>
    some ⟨"solver", Level.trace, "Ignoring window flow",
      [("window", .string window), ("op", .string op)]⟩
  | listenersFound count =>
    some ⟨"solver", Level.debug, "Found listener objects", [("count", .nat count)]⟩
  | handlersWired wired memoHits edges =>
    some ⟨"solver", Level.info, "Listener handlers wired",
      [("wired", .nat wired), ("memoHits", .nat memoHits), ("edges", .nat edges)]⟩
  | cacheUsed closures hits =>
    some ⟨"solver", Level.debug, "Closure cache",
      [("closures", .nat closures), ("hits", .nat hits)]⟩
  | analysisStarted reason facts =>
    some ⟨"analysis", Level.info, "Starting analysis",
      [("reason", .string reason), ("facts", .string facts)]⟩
  | factsLoading steps => some ⟨"analysis", Level.info, stepText 1 steps ++ "Loading facts...", []⟩
  | factsLoaded steps classes events registrations =>
    some ⟨"analysis", Level.info, stepText 1 steps ++ "Loaded " ++ toString classes ++ " classes, "
      ++ toString events ++ " events, " ++ toString registrations ++ " listener registrations", []⟩
  | graphBuilding steps =>
    some ⟨"analysis", Level.info, stepText 2 steps ++ "Building flow graph...", []⟩
  | listenersResolving steps =>
    some ⟨"analysis", Level.info,
      stepText 3 steps ++ "Resolving deferred listener registrations...", []⟩
  | cyclesFound steps count =>
    some ⟨"analysis", Level.info,
      stepText 3 steps ++ "Found " ++ toString count ++ " recursive flows", []⟩
  | solvingStarted steps => some ⟨"analysis", Level.info, stepText 4 steps ++ "Solving...", []⟩
  | solutionFound steps receivers parameters listeners =>
    some ⟨"analysis", Level.info, stepText 4 steps ++ "Solution has " ++ toString receivers
      ++ " receivers, " ++ toString parameters ++ " parameters, " ++ toString listeners
      ++ " listeners", []⟩
  | analysisComplete reason nodes edges =>
    some ⟨"analysis", Level.info, "Analysis complete",
      [("reason", .string reason), ("nodes", .nat nodes), ("edges", .nat edges),
       ("elapsed", .duration c.elapsed)]⟩
  | metricsWritten path => some ⟨"main", Level.info, "Wrote metrics", [("path", .string path)]⟩
  | watchStarted files directories =>
    some ⟨"watcher", Level.info, "started watching inputs",
      [("files", .nat files), ("directories", .nat directories)]⟩
  | watching facts =>
    some ⟨"main", Level.info, "Watching for changes (Ctrl-C to stop)", [("facts", .string facts)]⟩
  | inputChanged path type op =>
    some ⟨"watcher", Level.debug, "input changed",
      [("path", .string path), ("type", .word type), ("op", .string op)]⟩
  | changesFlushed count =>
    some ⟨"watcher", Level.debug, "flushing accumulated events", [("count", .nat count)]⟩
  | inputsChanged type paths =>
    some ⟨"main", Level.info, "Inputs changed, re-running",
      [("type", .word type), ("paths", .nat paths)]⟩
  | rerunFailed message =>
    some ⟨"main", Level.error, "Re-run failed", [("error", .failure message)]⟩
  | metricsFailed message =>
    some ⟨"main", Level.error, "Metrics export failed", [("error", .failure message)]⟩

/-- The record of a component: first the component, then the run, then what it says itself. -/
def Statement.record (s : Statement) (runId : String) : Record :=
  ⟨s.level, s.message,
    (Log.Caller.component s.component).attrs runId ++ s.attrs.map fun (k, v) => ⟨k, v⟩⟩

/-- The log line of a notice; nothing if it is not logged or its level is not shown. -/
def Notice.line (c : LogContext) (least : Level) (n : Notice) : String :=
  match n.statement? c with
  | some s => ({ least := least } : Log.Handler).write c.clock (s.record c.runId)
  | none => ""

/-- The text of a log. -/
def logText (c : LogContext) (least : Level) (notices : List Notice) : String :=
  String.join (notices.map (Notice.line c least))

end WidgetFlow
