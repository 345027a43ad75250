import WidgetFlow.Graph.ClosureCache
import WidgetFlow.Graph.Operands
import WidgetFlow.Graph.Window
import WidgetFlow.Journal.Notice
import WidgetFlow.Listener.Resolver

/-!
# The workspace of an analysis

Everything that an analysis changes while it runs: the flow graph, the listener work that is owed,
the counts of consumed events, and the journal. Steps of the analysis are written in `Work`, which
carries the workspace along; a step that fails keeps what it had done before it failed.
-/

namespace WidgetFlow

/-- The handler wiring owed to one listener registration. A context-menu task names the class whose
handler runs; any other names the registered interface. -/
structure DispatchTask where
  listenerClass : String := ""
  /-- The declared type of the listener argument, if it is narrower. -/
  parameterType : String := ""
  listener : NodeId := 0
  view : NodeId := 0
  op : NodeId := 0
  site : Site := {}
  contextMenu : Bool := false
  deriving DecidableEq, Inhabited

/-- A confirmed binding of a listener object to a view object at an operation. -/
structure Wire where
  op : NodeId
  view : NodeId
  listener : NodeId
  deriving DecidableEq, Inhabited

/-- Counts of listener work. -/
structure DispatchStats where
  immediate : Nat := 0
  deferred : Nat := 0
  resolved : Nat := 0
  wired : Nat := 0
  memoHits : Nat := 0
  skipped : Nat := 0
  unresolved : Nat := 0
  edges : Nat := 0
  deriving DecidableEq, Inhabited

/-- The listener work of one graph. -/
structure Dispatcher where
  /-- Registrations that wait, oldest first. -/
  pending : List DispatchTask := []
  /-- Confirmed bindings that wait, oldest first. -/
  wires : List Wire := []
  /-- Every binding that was ever accepted, newest first. -/
  memo : List Wire := []
  stats : DispatchStats := {}
  deriving DecidableEq, Inhabited

/-- How much listener work is waiting. -/
def Dispatcher.backlog (d : Dispatcher) : Nat := d.pending.length + d.wires.length

/-- Counts of consumed events. -/
structure IntakeStats where
  events : Nat := 0
  edges : Nat := 0
  operations : Nat := 0
  registrations : Nat := 0
  overrides : Nat := 0
  skipped : Nat := 0
  deriving DecidableEq, Inhabited

/-- The state of event intake. -/
structure Intake where
  stats : IntakeStats := {}
  /-- Allocations whose context-menu override is settled. -/
  settled : List NodeId := []
  /-- How often the class oracle was asked. -/
  asked : Nat := 0
  deriving DecidableEq, Inhabited

/-- Everything an analysis changes. -/
structure Workspace where
  store : Store := {}
  dispatcher : Dispatcher := {}
  intake : Intake := {}
  /-- What happened, newest first. -/
  journal : List Notice := []
  deriving DecidableEq, Inhabited

/-- What an analysis reads but does not change. -/
structure Program where
  resolver : Resolver := {}
  /-- The answer of the class oracle to a question of intake. It may depend on how many questions
  came before, and an oracle that is not ready may answer with an empty class. -/
  oracle : Nat → String → String → Option String := fun _ => resolver.hierarchy.dispatch?
  /-- The ids of system resources. -/
  resource? : String → Option Int := resolver.hierarchy.resource?

/-- A step of an analysis. -/
abbrev Work := EStateM Fault Workspace

namespace Work

/-- Adds to the journal. -/
def note (n : Notice) : Work Unit := modify fun w => { w with journal := n :: w.journal }

/-- The flow graph. -/
def store : Work Store := return (← get).store

/-- A request on the store. -/
def onStore {α : Type} (f : Store → Except Fault (α × Store)) : Work α := fun w =>
  match f w.store with
  | .ok (a, s) => .ok a { w with store := s }
  | .error e => .error e w

/-- A request on the store that cannot be refused. -/
def onStore' {α : Type} (f : Store → α × Store) : Work α := fun w =>
  let (a, s) := f w.store
  .ok a { w with store := s }

/-- Changes the counts of listener work. -/
def countDispatch (f : DispatchStats → DispatchStats) : Work Unit :=
  modify fun w => { w with dispatcher := { w.dispatcher with stats := f w.dispatcher.stats } }

/-- Changes the counts of consumed events. -/
def countIntake (f : IntakeStats → IntakeStats) : Work Unit :=
  modify fun w => { w with intake := { w.intake with stats := f w.intake.stats } }

/-- Does a step; if it fails, the failure tells that it happened in `stage`. -/
def within {α : Type} (stage : Stage) (step : Work α) : Work α := fun w =>
  match step w with
  | .ok a w => .ok a w
  | .error e w => .error (.within stage e) w

/-- Does a step and gives its failure as a value. -/
def attempt {α : Type} (step : Work α) : Work (Except Fault α) := fun w =>
  match step w with
  | .ok a w => .ok (.ok a) w
  | .error e w => .ok (.error e) w

/-- Does nothing, unless the analysis was called off. -/
def checkCanceled (canceled : Bool) : Work Unit := if canceled then throw .canceled else pure ()

/-- The forward closure of a node. -/
def reachable (id : NodeId) : Work NodeSet := do
  note (.closureComputed true)
  return (← store).reachable id

/-- The backward closure of a node. -/
def reaching (id : NodeId) : Work NodeSet := do
  note (.closureComputed false)
  return (← store).reaching id

/-- The forward closure of a node, from memory if it is there. -/
def reachableCached (c : ClosureCache) (id : NodeId) : Work (NodeSet × ClosureCache) := do
  if (c.find? id).isNone then note (.closureComputed true)
  return c.reachable (← store) id

/-- Asks for the forward closures of all `ids`. -/
def precompute (c : ClosureCache) : List NodeId → Work ClosureCache
  | [] => return c
  | id :: rest => do precompute (← reachableCached c id).2 rest

end Work

end WidgetFlow
