import WidgetFlow.Classification
import WidgetFlow.Listener.Dispatch
import WidgetFlow.Solver.Solution

/-!
# The passes of a solve

A solve asks of every producer, window and listener object which operations its forward closure
meets, and in which role. Four passes look and record; only the first adds edges (from the root views
of bound windows to their roots) and only the last wires the confirmed listeners into their handlers.
-/

namespace WidgetFlow

/-- How object flows are judged: the table, and whether an unclassified flow is a fault. -/
structure Rules where
  table : Classification := .default
  strict : Bool := false
  deriving DecidableEq, Inhabited

/-- Whether an object of the given kind may occupy the role. A flow that the table does not list is
dropped, or is a fault if the rules are strict. -/
def Rules.judge (r : Rules) (producer : NodeId) (object : ObjectKind) (operation : NodeId)
    (op : String) (role : Role) : Work Bool :=
  match r.table.lookup? object op role with
  | some v => return v = .accept
  | none => do
    Work.note (.unclassifiedFlow r.strict object.name op role.name)
    if r.strict then throw (.unclassified producer object.name operation op role.name)
    else return false

/-- What a solve has found, and the closures it remembers. -/
structure SolveState where
  findings : Findings := .empty
  cache : ClosureCache := {}
  deriving DecidableEq, Inhabited

namespace Solve

open Work

/-- An operation node with its operation. -/
structure OpNode where
  id : NodeId
  op : Operation
  deriving DecidableEq, Inhabited

/-- The operations among the nodes of a set, in order of their numbers. -/
def operationsIn (s : Store) (set : NodeSet) : List OpNode :=
  set.ids.filterMap fun id => ((s.node? id).bind (·.operation?)).map (⟨id, ·⟩)

/-- A node that supplies GUI objects: an allocation of one, or an operation that yields one. -/
def isProducer (n : Node) : Bool :=
  match n.operation? with
  | some o => o.kind.isProducer
  | none => n.kind == .allocation && n.object?.any (·.isProducer)

/-- The producers, in order of their numbers. -/
def producers (s : Store) : List Node := s.nodes.filter isProducer

/-- The operand of an operation. -/
def operandOf (op : NodeId) (role : Role) : Work NodeId := do
  match (← store).operand op role with
  | .ok id => return id
  | .error e => throw e

/-- The maps that a role is recorded in. -/
structure RoleMaps where
  role : Role
  reaching : MapName
  reached : MapName
  solution : MapName

/-- Where flows into parameters are recorded. -/
def parameterMaps : RoleMaps :=
  ⟨.parameter, .reachingParameterViews, .reachedParameterViews, .solutionParameters⟩

/-- Where flows into receivers are recorded. -/
def receiverMaps : RoleMaps :=
  ⟨.receiver, .reachingReceiverViews, .reachedReceiverViews, .solutionReceivers⟩

/-- Records a producer that flows into a role of an operation. A producing operation is recorded in
both directions; an object is judged and, if it is valid there, enters the solution. -/
def record (rules : Rules) (p : Node) (closure : NodeSet) (op : OpNode) (m : RoleMaps)
    (f : Findings) : Work Findings := do
  let operand ← operandOf op.id m.role
  if !flowsInto closure p.id operand then return f
  let f := f.insert m.reaching op.id p.id
  if p.isOperation then return f.insert m.reached p.id op.id
  let valid ← rules.judge p.id (p.object?.getD (.other "")) op.id op.op.kind.name m.role
  return if valid then f.insert m.solution op.id p.id else f

/-- Records a producer that flows into the listener slot of a registration. -/
def recordListener (p : Node) (closure : NodeSet) (op : OpNode) (f : Findings) : Work Findings := do
  let operand ← operandOf op.id .parameter
  if !flowsInto closure p.id operand then return f
  let f := f.insert .reachingListeners op.id p.id
  return if p.isOperation then f.insert .reachedListeners p.id op.id else f

/-- The receiver of the operation is a view or a menu, so producers may flow there. Menus have no
ids to set. -/
def takesReceiver (p : Node) (k : OpKind) : Bool :=
  let sig := k.signature
  sig.has .receiver && (sig.scope = .view || sig.scope = .menu)
    && !(p.object?.any (·.isMenu) && k = .setId)

/-- Records a producer whose closure meets an operation: first its parameter, then its receiver. -/
def producerReaches (rules : Rules) (p : Node) (closure : NodeSet) (f : Findings) (op : OpNode) :
    Work Findings := do
  let sig := op.op.kind.signature
  let f ←
    if sig.listener then recordListener p closure op f
    else if sig.has .parameter then record rules p closure op parameterMaps f
    else pure f
  if takesReceiver p op.op.kind then record rules p closure op receiverMaps f else return f

/-- Goes through `nodes` in order; `visit` sees the closure of each. -/
def visitClosures (visit : Node → NodeSet → Findings → Work Findings) :
    List Node → SolveState → Work SolveState
  | [], st => return st
  | n :: rest, st => do
    let (closure, cache) ← reachableCached st.cache n.id
    let f ← visit n closure st.findings
    visitClosures visit rest ⟨f, cache⟩

/-- Links the root views of every bound window to the root of the window. -/
def prewire : Work Unit := do
  let edges := (← store).windowBindings.flatMap fun b => b.producers.map fun p => (b.window, p, b.root)
  let added ← edges.mapM fun (w, p, root) => within (.window w) (onStore (·.addEdge p root {}))
  note (.windowsPrewired (added.count true))

/-- Finds out which producers reach which operations. -/
def producerPass (rules : Rules) (st : SolveState) : Work SolveState := do
  let ps := producers (← store)
  let cache ← precompute st.cache (ps.map (·.id))
  note (.producersClosed ps.length)
  visitClosures (fun p closure f => do
    (operationsIn (← store) closure).foldlM (producerReaches rules p closure) f) ps ⟨st.findings, cache⟩

/-- Asks for the wiring of a listener at an operation, for every view that receives it. -/
def requestWires (f : Findings) (op listener : NodeId) : Work Unit := do
  match (f.solutionReceivers.find op).ids with
  | [] => let _ ← Dispatch.requestWire ⟨op, 0, listener⟩
  | views => views.forM fun v => do let _ ← Dispatch.requestWire ⟨op, v, listener⟩

/-- Records a valid listener of a registration and asks for its wiring. -/
def confirmListener (f : Findings) (op listener : NodeId) : Work Findings := do
  let f := f.insert .solutionListeners op listener
  requestWires f op listener
  return f

/-- Records a window whose closure meets an operation. -/
def windowReaches (rules : Rules) (r : Resolver) (w : Node) (closure : NodeSet) (f : Findings)
    (op : OpNode) : Work Findings := do
  let sig := op.op.kind.signature
  let opLabel := (← store).label op.id
  if sig.scope = .window && sig.has .receiver then
    let operand ← operandOf op.id .receiver
    let verdict? := rules.table.lookup? (w.object?.getD (.other "")) op.op.kind.name .receiver
    if flowsInto closure w.id operand && verdict? = some .accept then
      return f.insert .reachingWindows op.id w.id
    note (.windowOutsideReceiver w.label opLabel)
    return f
  else if sig.listener then
    let f := f.insert .reachingListeners op.id w.id
    if r.implements w.className op.op.listener then confirmListener f op.id w.id else return f
  else
    note (.windowIgnored w.label opLabel)
    return f

/-- Finds out which windows reach which operations. -/
def windowPass (rules : Rules) (r : Resolver) (st : SolveState) : Work SolveState := do
  let ws := (← store).windows
  let cache ← precompute st.cache (ws.map (·.id))
  visitClosures (fun w closure f => do
    (operationsIn (← store) closure).foldlM (windowReaches rules r w closure) f) ws ⟨st.findings, cache⟩

/-- Records a listener object whose closure meets an operation. -/
def listenerReaches (r : Resolver) (l : Node) (closure : NodeSet) (f : Findings) (op : OpNode) :
    Work Findings := do
  if !op.op.kind.isListener then return f
  let operand ← operandOf op.id .parameter
  if !flowsInto closure l.id operand then return f
  let f := f.insert .reachingListeners op.id l.id
  if op.op.listener = "" || r.implements l.className op.op.listener then confirmListener f op.id l.id
  else return f

/-- Finds out which objects of listener types reach which registrations. -/
def listenerPass (r : Resolver) (st : SolveState) : Work SolveState := do
  let ls := (← store).objects.filter fun n => r.isListenerType n.className
  let cache ← precompute st.cache (ls.map (·.id))
  note (.listenersFound ls.length)
  visitClosures (fun l closure f => do
    (operationsIn (← store) closure).foldlM (listenerReaches r l closure) f) ls ⟨st.findings, cache⟩

/-- Asks once more for the wiring of all confirmed listeners, and does what waits. -/
def finalize (r : Resolver) (f : Findings) : Work Unit := do
  f.solutionListeners.rows.forM fun (op, listeners) => listeners.ids.forM (requestWires f op)
  Dispatch.flush r false
  let t := (← get).dispatcher.stats
  note (.handlersWired t.wired t.memoHits t.edges)

/-- Does one of five passes. -/
def pass {α : Type} (index : Nat) (name : String) (step : Work α) : Work α := do
  note (.passStarted index 5 name)
  let outcome ← attempt step
  note (.passEnded name)
  match outcome with
  | .error e => throw (.within (.pass name) e)
  | .ok a =>
    note (.passFinished index 5 name)
    return a

/-- Solves the graph: all passes in turn, then the finished maps. -/
def run (rules : Rules) (r : Resolver) (canceled : Bool) : Work Solution := do
  checkCanceled canceled
  pass 1 "prewire" prewire
  let st ← pass 2 "producers" (producerPass rules {})
  let st ← pass 3 "windows" (windowPass rules r st)
  let st ← pass 4 "listener-objects" (listenerPass r st)
  pass 5 "finalize" (finalize r st.findings)
  let solution := st.findings.freeze
  solution.counts.forM fun (n, pairs) => note (.mapSize n.text pairs)
  note (.graphSize (← store).stats)
  note (.cacheUsed st.cache.size st.cache.hits)
  return solution

end Solve

end WidgetFlow
