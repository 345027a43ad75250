import WidgetFlow.Listener.Dispatch

/-!
# Intake of flow events

A front end reports what it sees in a program as flow events: values that flow from one place to
another, framework calls it recognizes, views that are bound to windows. Intake turns them into
nodes, edges and operations. An event that names something unresolvable is skipped; an event that
breaks the contract of an operation is a fault.
-/

namespace WidgetFlow

/-- The handler that a view class overrides to fill its own context menu. -/
def viewContextMenu : String := "void onCreateContextMenu(android.view.ContextMenu)"

/-- A call that the front end recognized as a framework operation. -/
structure OpEvent where
  kind : String := ""
  receiver : Ref := {}
  parameter : Ref := {}
  result : Ref := {}
  site : Site := {}
  artificial : Bool := false
  /-- The registration method, for listener registrations. -/
  listener : String := ""
  /-- The class that handles a context-menu registration. -/
  listenerClass : String := ""
  /-- The declared type of the listener argument. -/
  parameterType : String := ""
  deriving DecidableEq, Inhabited

namespace Intake

open Work

/-- Counts an event as skipped and says why. -/
def skip (event : String) (fault : Fault) : Work Unit := do
  countIntake fun t => { t with skipped := t.skipped + 1 }
  note (.eventSkipped event fault)

/-- The node of a reference; none if the reference is unresolvable, which skips the event. -/
def internOrSkip (event : String) (r : Ref) : Work (Option NodeId) := do
  match ← attempt (onStore (·.intern r)) with
  | .ok id => return some id
  | .error e => if e.isUnresolved then do skip event e; return none else throw e

/-- Asks the oracle which class handles a method. -/
def ask (p : Program) (subsignature className : String) : Work (Option String) := do
  let w ← get
  set { w with intake := { w.intake with asked := w.intake.asked + 1 } }
  return p.oracle w.intake.asked subsignature className

/-- Settles the override of an allocation. -/
def settle (alloc : NodeId) : Work Unit :=
  modify fun w => { w with intake := { w.intake with settled := alloc :: w.intake.settled } }

/-- Lets a view flow into the override of its class, and a fresh menu into the override's parameter. -/
def wireOverride (view : Node) (className : String) (site : Site) : Work Unit := do
  let method := methodName className viewContextMenu
  let this ← onStore (·.internLocal (.this method))
  let param ← onStore (·.internLocal (.param method 0))
  let menu ← onStore' (·.newAllocation contextMenuClass .contextMenu)
  let _ ← onStore (·.addEdge view.id this site)
  let _ ← onStore (·.addEdge menu param site)
  settle view.id
  countIntake fun t => { t with overrides := t.overrides + 1 }
  note (.overrideWired view.label method)

/-- Wires the context-menu override of a view allocation, once for each allocation. An answer
without a class leaves the allocation open, so that the next flow out of it asks again. -/
def wireViewContextMenu (p : Program) (alloc : NodeId) (site : Site) : Work Unit := do
  let w ← get
  match w.store.node? alloc with
  | none => pure ()
  | some n =>
    if (n.object?.any (·.isView)) && alloc ∉ w.intake.settled then
      match ← ask p viewContextMenu n.className with
      | none => settle alloc
      | some "" => throw (.unresolved "dispatch target" (n.className ++ "." ++ viewContextMenu))
      | some c => wireOverride n c site

/-- Wires the override of the source of a flow, if it is an allocation. -/
def afterFlow (p : Program) (source : Ref) (src : NodeId) (site : Site) : Work Unit := do
  if source.kind = .allocation then
    match ← attempt (wireViewContextMenu p src site) with
    | .ok () => pure ()
    | .error e => if e.isUnresolved then skip "override" e else throw e

/-- Records a flow from `source` to `target`; `event` is the word for its cause. -/
def flow (p : Program) (event : String) (source target : Ref) (site : Site) : Work Unit := do
  countIntake fun t => { t with events := t.events + 1 }
  let some src ← internOrSkip event source | return
  let some dst ← internOrSkip event target | return
  let added ← within (.event event site) (onStore (·.addEdge src dst site))
  if added then countIntake fun t => { t with edges := t.edges + 1 }
  afterFlow p source src site

/-- An assignment `target = source`. -/
def assign (p : Program) (target source : Ref) (site : Site) : Work Unit :=
  flow p "assign" source target site

/-- An argument of a call flows into a formal parameter. -/
def bindParameter (p : Program) (formal actual : Ref) (site : Site) : Work Unit :=
  flow p "param" actual formal site

/-- What a call returns flows into the variable that receives it. -/
def bindReturn (p : Program) (target returned : Ref) (site : Site) : Work Unit :=
  flow p "return" returned target site

/-- The node for one role of a recognized operation, zero if it is left open. None if the operation
cannot exist, because a role that it needs names something unresolvable. -/
def internRole (event : String) (sig : Signature) (role : Role) (r : Ref) : Work (Option NodeId) := do
  if r.isNone then return some 0
  match ← internOrSkip event r with
  | some id => return some id
  | none => return if sig.has role && role ≠ .result then none else some 0

/-- The class whose handler runs for a context-menu registration: the class the event names, else
the class of the listener object, else the class that contains the call. -/
def contextMenuHandler (s : Store) (ev : OpEvent) (listener : NodeId) : String :=
  if ev.listenerClass ≠ "" then ev.listenerClass
  else match s.node? listener with
    | some n => if n.isObject then n.className else declaringClass ev.site.method
    | none => declaringClass ev.site.method

/-- Hands the task of a new registration to the dispatcher. -/
def registerListener (p : Program) (ev : OpEvent) (i : Operands) (op : NodeId) (reg : Registration) :
    Work Unit := do
  let s ← store
  let handler := if reg.contextMenu then contextMenuHandler s ev i.parameter else reg.interface
  Dispatch.register p.resolver
    { listenerClass := handler, parameterType := ev.parameterType, listener := i.parameter
      view := i.receiver, op := op, site := ev.site, contextMenu := reg.contextMenu }
  countIntake fun t => { t with registrations := t.registrations + 1 }

/-- Creates the operation of an event whose operands and registration are known. -/
def createOperation (p : Program) (ev : OpEvent) (i : Operands) (reg? : Option Registration) :
    Work NodeId := do
  let op ← within (.event ev.kind ev.site) <| onStore (·.createOperation
    { kind := ev.kind, operands := i, site := ev.site, artificial := ev.artificial
      listener := (reg?.map (·.interface)).getD ""
      contextMenu := reg?.any (·.contextMenu) })
  countIntake fun t => { t with operations := t.operations + 1 }
  note (.operationCreated op ev.kind ev.site)
  match reg? with
  | some reg => registerListener p ev i op reg
  | none => pure ()
  return op

/-- Creates the operation of a recognized call; zero if the event is skipped. -/
def recognize (p : Program) (ev : OpEvent) : Work NodeId := do
  countIntake fun t => { t with events := t.events + 1 }
  let some kind := OpKind.ofName? ev.kind
    | throw (.contract 0 ev.kind "" (.unknownKind ev.kind))
  let sig := kind.signature
  let some receiver ← internRole ev.kind sig .receiver ev.receiver | return 0
  let some parameter ← internRole ev.kind sig .parameter ev.parameter | return 0
  let some result ← internRole ev.kind sig .result ev.result | return 0
  let operands : Operands := ⟨receiver, parameter, result⟩
  if sig.listener then
    match p.resolver.table.byMethod? ev.listener with
    | none =>
      skip ev.kind (.unresolved "listener registration" ev.listener)
      return 0
    | some reg => createOperation p ev operands (some reg)
  else createOperation p ev operands none

/-- A tab host looks up one of its parts by a system id; zero if the id is not known. -/
def tabHost (p : Program) (host : Ref) (part : String) (target : Ref) (site : Site) :
    Work NodeId := do
  match p.resource? part with
  | none =>
    countIntake fun t => { t with events := t.events + 1 }
    skip "tabhost" (.unresolved "resource" ("system id " ++ Text.quoted part))
    return 0
  | some id =>
    recognize p
      { kind := OpKind.findView.name, receiver := host, parameter := .ofResource (.widget id)
        result := target, site := site, artificial := true }

/-- Declares the node that a window's bound views flow into. -/
def bindViews (window root : Ref) : Work Unit := do
  let w ← onStore (·.intern window)
  let r ← onStore (·.intern root)
  onStore fun s => (s.bindWindowRoot w r).map ((), ·)

/-- Records a root view of a window. -/
def windowRoot (window producer : Ref) : Work Unit := do
  let w ← onStore (·.intern window)
  let p ← onStore (·.intern producer)
  onStore fun s => (s.addWindowRoot w p).map ((), ·)

/-- Ends construction: resolves all registrations that wait. -/
def complete (p : Program) (canceled : Bool) : Work Unit := do
  within .completion (Dispatch.flush p.resolver canceled)
  note (.graphComplete (← store).stats)

end Intake

end WidgetFlow
