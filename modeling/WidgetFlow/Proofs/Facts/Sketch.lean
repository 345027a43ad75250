import WidgetFlow.Proofs.Workspace.Readiness

/-!
# What an event contributes

The numbers of the nodes, the sites of the edges and the moments at which things are made depend on
the order in which events are replayed. What an event contributes to the graph does not: it can be
read off the event and the tables. Its `Sketch` lists the contribution without numbers. An
operation, and a menu that a registration hands out, are there once for every stroke that asks for
them; entities, flows and the overrides of views are there once, however often they are drawn. So
the strokes of the events, in whatever order, determine the graph except for its numbers.

An event without a sketch breaks a contract; whether it does, too, can be read off the event.
-/

namespace WidgetFlow

open Work

/-- An operation, with its operands told by what they are. A role that names nothing has none. -/
structure RecognizedCall where
  operation : Operation
  receiver : Option Entity := none
  parameter : Option Entity := none
  result : Option Entity := none
  /-- The declared type of the listener, if a registration waits until the graph is complete. -/
  bound? : Option String := none
  deriving DecidableEq

/-- The operand in a role. -/
def RecognizedCall.operand (c : RecognizedCall) : Role → Option Entity
  | .receiver => c.receiver
  | .parameter => c.parameter
  | .result => c.result
  | .other _ => none

/-- What a node stands for, without numbers. -/
inductive Figure where
  | entity (e : Entity)
  /-- The menu that goes to the context-menu method of a view's class. -/
  | override (view : Entity) (method : String)
  /-- A menu that a registration hands to a handler. -/
  | menu (slot : Local)
  | call (c : RecognizedCall)
  deriving DecidableEq

/-- One contribution to a graph: a node, or a flow from one entity to another. -/
inductive Stroke where
  | node (f : Figure)
  | flow (src dst : Entity)
  deriving DecidableEq

/-- What has been contributed to a graph. -/
abbrev Sketch := List Stroke

/-- However often it is drawn, there is one node for the figure. -/
def Figure.isSingle : Figure → Bool
  | entity _ | override .. => true
  | menu _ | call _ => false

/-- How many nodes there are for a figure that has been drawn `n` times. -/
def Figure.due (f : Figure) (n : Nat) : Nat := if f.isSingle then min n 1 else n

/-- Drawing the stroke again adds nothing. -/
def Stroke.isSingle : Stroke → Bool
  | node f => f.isSingle
  | flow .. => true

/-- The entities that must be there before the figure is drawn. -/
def Figure.mentions : Figure → List Entity
  | entity _ => []
  | override v m => [v, .slot (.this m), .slot (.param m 0)]
  | menu l => [.slot l]
  | call c => c.receiver.toList ++ c.parameter.toList ++ c.result.toList

theorem RecognizedCall.exists_operand {c : RecognizedCall} {e : Entity}
    (mentioned : e ∈ (Figure.call c).mentions) :
    ∃ role, c.operand role = some e := by
  simp only [Figure.mentions, List.mem_append, Option.mem_toList] at mentioned
  rcases mentioned with (receiver | parameter) | result
  · exact ⟨.receiver, receiver⟩
  · exact ⟨.parameter, parameter⟩
  · exact ⟨.result, result⟩

theorem RecognizedCall.mem_mentions {c : RecognizedCall} {role : Role} {e : Entity}
    (operand : c.operand role = some e) : e ∈ (Figure.call c).mentions := by
  cases role <;> simp_all [Figure.mentions, RecognizedCall.operand]

namespace Sketch

/-- The sketch shows a flow from one figure to another. -/
def Joins (sk : Sketch) : Figure → Figure → Prop
  | .entity e, .entity e' => .flow e e' ∈ sk
  | .override _ m, .entity e => e = .slot (.param m 0)
  | .menu l, .entity e => e = .slot l
  | .entity e, .call c => ∃ role ∈ c.operation.kind.signature.layout, c.operand role = some e
  | .call c, .entity e => c.result = some e
  | _, _ => False

/-- Everything that a stroke mentions has been drawn, and with an override the flow into it. -/
structure Closed (sk : Sketch) : Prop where
  flow : ∀ {e e'}, .flow e e' ∈ sk → .node (.entity e) ∈ sk ∧ .node (.entity e') ∈ sk
  mentions : ∀ {f}, .node f ∈ sk → ∀ e ∈ f.mentions, .node (.entity e) ∈ sk
  override : ∀ {v m}, .node (.override v m) ∈ sk → .flow v (.slot (.this m)) ∈ sk

variable {sk sk' : Sketch}

theorem joins_congr (same : ∀ t, t ∈ sk ↔ t ∈ sk') (f g : Figure) :
    sk.Joins f g ↔ sk'.Joins f g := by
  cases f <;> cases g <;> simp only [Joins, same]

theorem joins_append_node (sk : Sketch) (new f g : Figure) :
    (sk ++ [.node new] : Sketch).Joins f g ↔ sk.Joins f g := by
  cases f <;> cases g <;> simp [Joins]

theorem joins_append_flow {e e' : Entity} {f g : Figure} :
    (sk ++ [.flow e e'] : Sketch).Joins f g ↔ sk.Joins f g ∨ f = .entity e ∧ g = .entity e' := by
  cases f <;> cases g <;> simp [Joins]

theorem Closed.congr (closed : sk.Closed) (same : ∀ t, t ∈ sk ↔ t ∈ sk') : sk'.Closed where
  flow drawn := by simpa only [← same] using closed.flow ((same _).2 drawn)
  mentions drawn := by simpa only [← same] using closed.mentions ((same _).2 drawn)
  override drawn := (same _).1 (closed.override ((same _).2 drawn))

theorem closed_nil : Closed [] where
  flow drawn := absurd drawn List.not_mem_nil
  mentions drawn := absurd drawn List.not_mem_nil
  override drawn := absurd drawn List.not_mem_nil

/-- A figure may be drawn once what it mentions is there. -/
theorem Closed.append_node (closed : sk.Closed) {f : Figure}
    (mentioned : ∀ e ∈ f.mentions, .node (.entity e) ∈ sk)
    (overridden : ∀ v m, f = .override v m → .flow v (.slot (.this m)) ∈ sk) :
    Closed (sk ++ [.node f]) where
  flow drawn := by
    have before := (List.mem_append.1 drawn).resolve_right (by simp)
    exact (closed.flow before).imp (List.mem_append_left _) (List.mem_append_left _)
  mentions {g} drawn e listed := by
    refine List.mem_append_left _ ?_
    rcases List.mem_append.1 drawn with before | new
    · exact closed.mentions before e listed
    · obtain rfl : g = f := by simpa using new
      exact mentioned e listed
  override {v m} drawn := by
    refine List.mem_append_left _ ?_
    rcases List.mem_append.1 drawn with before | new
    · exact closed.override before
    · exact overridden v m (by simpa using Eq.symm (List.mem_singleton.1 new))

/-- A flow may be drawn once its ends are there. -/
theorem Closed.append_flow (closed : sk.Closed) {e e' : Entity} (src : .node (.entity e) ∈ sk)
    (dst : .node (.entity e') ∈ sk) : Closed (sk ++ [.flow e e']) where
  flow drawn := by
    refine And.imp (List.mem_append_left _) (List.mem_append_left _) ?_
    rcases List.mem_append.1 drawn with before | new
    · exact closed.flow before
    · cases List.mem_singleton.1 new
      exact ⟨src, dst⟩
  mentions drawn e listed := by
    have before := (List.mem_append.1 drawn).resolve_right (by simp)
    exact List.mem_append_left _ (closed.mentions before e listed)
  override drawn := by
    have before := (List.mem_append.1 drawn).resolve_right (by simp)
    exact List.mem_append_left _ (closed.override before)

/-- What has a flow has been drawn. -/
theorem Closed.joins (closed : sk.Closed) {f g : Figure} (joins : sk.Joins f g) :
    (∀ e, f = .entity e → .node g ∈ sk → .node (.entity e) ∈ sk) ∧
      ∀ e, g = .entity e → .node f ∈ sk → .node (.entity e) ∈ sk := by
  constructor
  · rintro e rfl drawn
    cases g with
    | entity e' => exact (closed.flow joins).1
    | call c =>
      obtain ⟨role, -, operand⟩ := joins
      exact closed.mentions drawn e (RecognizedCall.mem_mentions operand)
    | override | menu => exact joins.elim
  · rintro e rfl drawn
    cases f with
    | entity e' => exact (closed.flow joins).2
    | override v m =>
      obtain rfl : e = .slot (.param m 0) := joins
      exact closed.mentions drawn _ (by simp [Figure.mentions])
    | menu l =>
      obtain rfl : e = .slot l := joins
      exact closed.mentions drawn _ (by simp [Figure.mentions])
    | call c =>
      have result : c.operand .result = some e := joins
      exact closed.mentions drawn _ (RecognizedCall.mem_mentions result)

end Sketch

/-! ### Flows -/

/-- The stroke of a reference that names something. -/
def Ref.strokes (r : Ref) : Sketch := r.entity?.toList.map fun e => .node (.entity e)

/-- A flow from an entity into a value slot. -/
def Entity.feedStrokes (e : Entity) (l : Local) : Sketch :=
  [.node (.entity (.slot l))] ++ [.flow e (.slot l)]

/-- The method that a view's class overrides to fill its context menu. -/
def Program.overriding? (p : Program) : Entity → Option String
  | .allocation a =>
    if a.kind.isView then
      (p.oracle 0 viewContextMenu a.className).map (methodName · viewContextMenu)
    else none
  | _ => none

/-- The class oracle is a table of classes. -/
def Program.Static (p : Program) : Prop := ∃ h : Hierarchy, p.oracle = fun _ => h.dispatch?

/-- What comes with a flow out of an allocation. -/
def Program.overrideStrokes (p : Program) (v : Entity) : Sketch :=
  match p.overriding? v with
  | none => []
  | some m =>
    [.node (.entity (.slot (.this m))), .node (.entity (.slot (.param m 0))),
     .flow v (.slot (.this m)), .node (.override v m)]

/-- A flow between references. Its source is named before its target. -/
def Program.flowStrokes (p : Program) (source target : Ref) : Sketch :=
  source.strokes ++
    match source.entity? with
    | none => []
    | some e =>
      target.strokes ++
        match target.entity? with
        | none => []
        | some e' => [.flow e e'] ++ p.overrideStrokes e

/-! ### Recognized calls -/

/-- The role names something that cannot be resolved, and the operation needs it. -/
def Ref.blocks (r : Ref) (sig : Signature) (role : Role) : Bool :=
  !r.isNone && r.entity?.isNone && sig.has role && role ≠ .result

namespace OpEvent

/-- What the event names for a role. -/
def ref (ev : OpEvent) : Role → Ref
  | .receiver => ev.receiver
  | .parameter => ev.parameter
  | .result => ev.result
  | .other _ => {}

/-- The operation cannot exist. -/
def isBlocked (ev : OpEvent) (sig : Signature) : Bool :=
  ev.receiver.blocks sig .receiver || ev.parameter.blocks sig .parameter

/-- The roles are named one after the other, up to one that is in the way. -/
def roleStrokes (ev : OpEvent) (sig : Signature) : Sketch :=
  ev.receiver.strokes ++
    if ev.receiver.blocks sig .receiver then []
    else ev.parameter.strokes ++
      if ev.parameter.blocks sig .parameter then [] else ev.result.strokes

/-- The table entry of a listener registration; operations of other kinds need none. -/
def entry? (p : Program) (ev : OpEvent) (sig : Signature) : Option (Option Registration) :=
  if sig.listener then (p.resolver.table.byMethod? ev.listener).map some else some none

/-- The roles that name something suit the signature. -/
def suits (ev : OpEvent) (sig : Signature) : Bool :=
  ([.receiver, .parameter, .result] : List Role).all
      (fun role => (ev.ref role).entity?.isNone || sig.has role) &&
    sig.layout.all fun role => (ev.ref role).entity?.isSome

/-- The operation of the event. -/
def call (ev : OpEvent) (kind : OpKind) (reg? : Option Registration) : RecognizedCall where
  operation := (Intake.operationRequest ev {} reg?).operation kind
  receiver := ev.receiver.entity?
  parameter := ev.parameter.entity?
  result := ev.result.entity?
  bound? := if reg?.any (!·.contextMenu) then some ev.parameterType else none

/-- The class that handles a context-menu registration. -/
def handlerClass (ev : OpEvent) : String :=
  if ev.listenerClass ≠ "" then ev.listenerClass
  else match ev.parameter.entity? with
    | some (.allocation a) => a.className
    | some (.window w) => w.className
    | _ => declaringClass ev.site.method

end OpEvent

/-- A handler that is wired at once: the listener and the view flow into its slots, and so does a
menu of its own. -/
def Target.strokes (t : Target) (listener view : Option Entity) : Sketch :=
  ((listener.elim [] fun e => e.feedStrokes (.this t.method)) ++
    (match t.handler.viewParam? with
    | some i => view.elim [] fun e => e.feedStrokes (.param t.method i)
    | none => [])) ++
  (match t.handler.menuParam? with
  | some i => [.node (.entity (.slot (.param t.method i))), .node (.menu (.param t.method i))]
  | none => [])

/-- A registration of a context menu is wired at once, by the first entry of its interface. -/
def OpEvent.menuStrokes (p : Program) (ev : OpEvent) (reg : Registration) : Sketch :=
  match p.resolver.table.byInterface? reg.interface with
  | some first => (p.resolver.targets first ev.handlerClass).flatMap
      (·.strokes ev.parameter.entity? ev.receiver.entity?)
  | none => []

/-- The operation of an event, and what its registration wires at once. -/
def OpEvent.callStrokes (p : Program) (ev : OpEvent) (kind : OpKind) (reg? : Option Registration) :
    Sketch :=
  [.node (.call (ev.call kind reg?))] ++
    match reg? with
    | some reg => if reg.contextMenu then ev.menuStrokes p reg else []
    | none => []

/-- What a recognized call contributes. -/
def OpEvent.strokes? (p : Program) (ev : OpEvent) : Option Sketch :=
  match OpKind.ofName? ev.kind with
  | none => none
  | some kind =>
    if ev.isBlocked kind.signature then some (ev.roleStrokes kind.signature)
    else match ev.entry? p kind.signature with
      | none => some (ev.roleStrokes kind.signature)
      | some reg? =>
        if ev.suits kind.signature then
          some (ev.roleStrokes kind.signature ++ ev.callStrokes p kind reg?)
        else none

/-! ### Events -/

/-- The call that looks up a part of a tab host. -/
def partCall (host target : Ref) (id : Int) (site : Site) : OpEvent where
  kind := OpKind.findView.name
  receiver := host
  parameter := .ofResource (.widget id)
  result := target
  site := site
  artificial := true

/-- What an event contributes; none if it breaks a contract. -/
def FlowEvent.strokes? (p : Program) (ev : FlowEvent) : Option Sketch :=
  match ev.kind with
  | "assign" | "param" | "return" => some (p.flowStrokes ev.source ev.target)
  | "op" =>
    match ev.op with
    | none => some []
    | some op => (Facts.operationAt op ev.site).strokes? p
  | "tabhost" =>
    match p.resource? ev.part with
    | none => some []
    | some id => (partCall ev.host ev.target id ev.site).strokes? p
  | _ => some []

/-- What events contribute together. -/
def Facts.sketch (p : Program) (events : List FlowEvent) : Sketch :=
  events.flatMap fun ev => (ev.strokes? p).getD []

/-! ### Allocations -/

/-- The allocation that a reference names. -/
def Ref.allocation? (r : Ref) : Option AllocSite :=
  match r.entity? with
  | some (.allocation a) => some a
  | _ => none

/-- The references of a recognized call. -/
def OpEvent.refs (ev : OpEvent) : List Ref := [ev.receiver, ev.parameter, ev.result]

/-- Every reference of an event. -/
def FlowEvent.refs (ev : FlowEvent) : List Ref :=
  [ev.target, ev.source, ev.host] ++ ev.op.toList.flatMap OpEvent.refs

/-- If the entity is an allocation, it is one of these. -/
def Entity.Within (allocs : List AllocSite) (e : Entity) : Prop :=
  ∀ a, e = .allocation a → a ∈ allocs

/-- An expression determines its allocation. -/
def Agree (allocs : List AllocSite) : Prop :=
  ∀ a ∈ allocs, ∀ b ∈ allocs, a.expr = b.expr → a = b

theorem Entity.within_slot (allocs : List AllocSite) (l : Local) :
    Entity.Within allocs (.slot l) := by
  rintro a ⟨⟩

/-- Where allocations agree, entities are told apart by their keys. -/
theorem Agree.eq_of_key {allocs : List AllocSite} (agree : Agree allocs) {e e' : Entity}
    (within : e.Within allocs) (within' : e'.Within allocs) (same : e.key = e'.key) : e = e' := by
  cases e <;> cases e' <;> simp only [Entity.key, reduceCtorEq, Entity.Key.slot.injEq,
    Entity.Key.allocation.injEq, Entity.Key.field.injEq, Entity.Key.constant.injEq,
    Entity.Key.resource.injEq, Entity.Key.window.injEq] at same
  case allocation a b => rw [agree a (within a rfl) b (within' b rfl) same]
  case null => rfl
  all_goals rw [same]

end WidgetFlow
