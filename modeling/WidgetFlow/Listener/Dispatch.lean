import WidgetFlow.Workspace

/-!
# Dispatch of listener work

A registration ends in handler methods: the listener object flows into the receiver of the handler
and the view into its view parameter. Context-menu registrations are wired at once; all others wait
until the graph is complete, because only then the objects that may be the listener are known. What
the solver confirms is wired as well, each binding once.
-/

namespace WidgetFlow

/-- The class of the menus handed to context-menu handlers. -/
def contextMenuClass : String := "android.view.ContextMenu"

namespace Dispatch

open Work

/-- Adds an edge from a node to a slot of a handler. -/
def edgeToLocal (src : NodeId) (l : Local) (site : Site) : Work Unit := do
  let dst ← onStore (·.internLocal l)
  let added ← within (.wiring l.method) (onStore (·.addEdge src dst site))
  if added then countDispatch fun t => { t with edges := t.edges + 1 }

/-- Lets the listener flow into the receiver of a handler and the view into its view parameter. -/
def connect (t : Target) (listener view : NodeId) (site : Site) : Work Unit := do
  if listener ≠ 0 then edgeToLocal listener (.this t.method) site
  match t.handler.viewParam? with
  | some i => if view ≠ 0 then edgeToLocal view (.param t.method i) site
  | none => pure ()

/-- The table entry of the interface that an operation registers. -/
def registration (r : Resolver) (op : NodeId) : Work Registration := do
  match ((← store).node? op).bind (·.operation?) with
  | none => throw (.contract op "" "" .noOperation)
  | some o =>
    match r.table.byInterface? o.listener with
    | some reg => return reg
    | none => throw (.contract op o.kind.name "" (.unknownInterface o.listener))

/-- Reports handlers that have no method. -/
def reportUnresolved (className : String) (methods : List String) : Work Unit := do
  if methods ≠ [] then
    countDispatch fun t => { t with unresolved := t.unresolved + methods.length }
    note (.handlersUnresolved className methods)

/-- Gives a fresh context menu to a handler that takes one. -/
def giveMenu (t : Target) (site : Site) : Work Unit := do
  match t.handler.menuParam? with
  | some i =>
    let menu ← onStore' (·.newAllocation contextMenuClass .contextMenu)
    edgeToLocal menu (.param t.method i) site
  | none => pure ()

/-- Wires a context-menu registration: the class is known, and every handler gets its own menu. -/
def resolveContextMenu (r : Resolver) (task : DispatchTask) : Work Unit := do
  let reg ← registration r task.op
  reportUnresolved task.listenerClass (r.unresolved reg task.listenerClass)
  (r.targets reg task.listenerClass).forM fun t => do
    connect t task.listener task.view task.site
    giveMenu t task.site

/-- The classes, in ascending order, of the objects among `nodes` that pass a test. -/
def objectClasses (s : Store) (nodes : List NodeId) (test : String → Bool) : List String :=
  nodes.filterMap fun id =>
    (s.node? id).bind fun n => if n.isObject && test n.className then some n.className else none

/-- The classes of the objects that may be the listener: those that flow into the listener value and
fit both the interface and the declared bound, and the listener value itself if it is an object that
fits the interface. -/
def listenerClasses (r : Resolver) (listener : NodeId) (interface bound : String) :
    Work (List String) := do
  if listener = 0 then return []
  let flowing ← reaching listener
  let s ← store
  let found := objectClasses s flowing.ids fun c => r.implements c interface && r.implements c bound
  let own := objectClasses s [listener] fun c => r.implements c interface
  return (distinct (found ++ own)).mergeSort fun a b => decide (a ≤ b)

/-- Wires the handlers of a registration for a listener of one class. -/
def wireClass (r : Resolver) (reg : Registration) (listener view : NodeId) (site : Site)
    (className : String) : Work Unit := do
  reportUnresolved className (r.unresolved reg className)
  (r.targets reg className).forM fun t => connect t listener view site

/-- Wires a registration of a complete graph. If no object flows into the listener value, every
concrete class that fits may be the listener. -/
def resolveDeferred (r : Resolver) (task : DispatchTask) : Work Unit := do
  let reg ← registration r task.op
  let interface := if task.listenerClass = "" then reg.interface else task.listenerClass
  let bound := if task.parameterType = "" then interface else task.parameterType
  let found ← listenerClasses r task.listener interface bound
  let classes :=
    if found = [] then (r.hierarchy.concreteSubtypes bound).filter (r.implements · interface)
    else found
  if classes = [] then reportUnresolved interface ["no implementing class"]
  else
    classes.forM (wireClass r reg task.listener task.view task.site)
    countDispatch fun t => { t with resolved := t.resolved + 1 }

/-- Accepts the task of a new registration. -/
def register (r : Resolver) (task : DispatchTask) : Work Unit := do
  if task.contextMenu then
    countDispatch fun t => { t with immediate := t.immediate + 1 }
    resolveContextMenu r task
  else
    modify fun w => { w with dispatcher := { w.dispatcher with
      pending := w.dispatcher.pending ++ [task]
      stats := { w.dispatcher.stats with deferred := w.dispatcher.stats.deferred + 1 } } }

/-- Handler wiring is owed only to a registration of an ordinary listener, and never for a view that
is a context menu. -/
def isWirable (s : Store) (w : Wire) : Bool :=
  let registers := ((s.node? w.op).bind (·.operation?)).any fun o =>
    o.kind.isListener && !o.contextMenu
  let onMenu := (s.node? w.view).any (·.hasObject .contextMenu)
  registers && !onMenu

/-- Queues the wiring of a confirmed binding, unless it was accepted before. Tells whether it was
queued. -/
def requestWire (k : Wire) : Work Bool := do
  let w ← get
  if !isWirable w.store k then
    countDispatch fun t => { t with skipped := t.skipped + 1 }
    note (.wiring .skipped)
    return false
  else if k ∈ w.dispatcher.memo then
    countDispatch fun t => { t with memoHits := t.memoHits + 1 }
    note (.wiring .repeated)
    return false
  else
    set { w with dispatcher := { w.dispatcher with
      memo := k :: w.dispatcher.memo
      wires := w.dispatcher.wires ++ [k] } }
    return true

/-- Wires a confirmed binding. -/
def wire (r : Resolver) (k : Wire) : Work Unit := do
  let reg ← registration r k.op
  let s ← store
  match s.node? k.listener with
  | none => throw (.unknownListener k.op k.listener)
  | some l =>
    let site := (((s.node? k.op).bind (·.operation?)).map (·.site)).getD {}
    wireClass r reg k.listener k.view site l.className
    countDispatch fun t => { t with wired := t.wired + 1 }
    note (.wiring .wired)

/-- Takes everything that waits out of the queues. -/
def takeQueues : Work (List DispatchTask × List Wire) := do
  let w ← get
  set { w with dispatcher := { w.dispatcher with pending := [], wires := [] } }
  return (w.dispatcher.pending, w.dispatcher.wires)

/-- Does all listener work that waits, registrations first. Doing it queues no further work, so one
round leaves nothing waiting. What was taken out of the queues is not put back if a task fails. -/
def flush (r : Resolver) (canceled : Bool) : Work Unit := do
  checkCanceled canceled
  let (pending, wires) ← takeQueues
  if pending.length + wires.length ≠ 0 then
    note (.flushing 1 pending.length wires.length)
    pending.forM (resolveDeferred r)
    wires.forM (wire r)

end Dispatch

end WidgetFlow
