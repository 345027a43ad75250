import WidgetFlow.Listener.Dispatch
import WidgetFlow.Proofs.Graph.Flow
import WidgetFlow.Proofs.Graph.Naming
import WidgetFlow.Proofs.Workspace.Triple

/-!
# Flows into handlers

All that listener dispatch does to the graph is to let nodes flow into slots of handler methods. Such
a flow is a `Feed`. `Fed s fs t` says that the store `t` is the store `s` with the flows `fs` added,
in whatever order and however often: the slots have nodes, the edges are the old ones and those of
the flows, and there is nothing else. What is fed to a store adds up, so each step of dispatch has
one contract, the list of flows that it adds (`Feeding`), and what a sequence or a loop adds is the
concatenation of what its steps add.
-/

namespace WidgetFlow

open Work

/-- A flow into a slot of a handler. -/
structure Feed where
  src : NodeId
  slot : Local
  site : Site
  deriving DecidableEq, Inhabited

namespace Store

variable {s t u : Store} {f : Feed} {fs gs : List Feed} {e : Edge}

/-- The edge carries the flow: it leads from the source of the flow to the node that stands for its
slot, and is due to its site. -/
def Carries (s : Store) (e : Edge) (f : Feed) : Prop :=
  e.src = f.src ∧ s.node? e.dst = some ⟨e.dst, .entity (.slot f.slot)⟩ ∧ e.site = f.site

instance (s : Store) (e : Edge) (f : Feed) : Decidable (s.Carries e f) :=
  inferInstanceAs (Decidable (_ ∧ _ ∧ _))

theorem Named.lookup?_slot_iff (named : s.Named) {l : Local} {id : NodeId} :
    s.lookup? (.slot l) = some id ↔ s.node? id = some ⟨id, .entity (.slot l)⟩ := by
  rw [named]
  constructor
  · rintro ⟨x, there, key⟩
    cases x with
    | slot l' => rwa [Entity.Key.slot.inj key] at there
    | _ => cases key
  · intro there
    exact ⟨.slot l, there, rfl⟩

theorem Named.carries_iff (named : s.Named) {id : NodeId}
    (known : s.lookup? (.slot f.slot) = some id) : s.Carries e f ↔ e = ⟨f.src, id, f.site⟩ := by
  obtain ⟨src, dst, site⟩ := e
  simp [Carries, ← named.lookup?_slot_iff, known, eq_comm]

/-- The store `t` is `s` with the flows added, and nothing else. -/
structure Fed (s : Store) (fs : List Feed) (t : Store) : Prop where
  wellFormed : t.WellFormed
  named : t.Named
  grows : s.Grows t
  recalls : s.Recalls t
  edges : ∀ e, e ∈ t.edges ↔ e ∈ s.edges ∨ ∃ f ∈ fs, t.Carries e f
  slots : ∀ f ∈ fs, ∃ id, t.lookup? (.slot f.slot) = some id
  nodes : ∀ n ∈ t.nodes, n ∈ s.nodes ∨ ∃ f ∈ fs, n.body = .entity (.slot f.slot)
  bindings : t.windowBindings = s.windowBindings

theorem Fed.refl (ok : s.WellFormed) (named : s.Named) : Fed s [] s where
  wellFormed := ok
  named := named
  grows := .refl s
  recalls := .refl s
  edges := by simp
  slots := by simp
  nodes _ there := .inl there
  bindings := rfl

theorem Fed.congr (fed : Fed s fs t) (same : ∀ f, f ∈ fs ↔ f ∈ gs) : Fed s gs t where
  wellFormed := fed.wellFormed
  named := fed.named
  grows := fed.grows
  recalls := fed.recalls
  edges e := by simpa only [same] using fed.edges e
  slots f new := fed.slots f ((same f).2 new)
  nodes n there := by simpa only [same] using fed.nodes n there
  bindings := fed.bindings

/-- A slot that has a node keeps it, so the same edges carry the flow. -/
theorem Recalls.carries_iff (recalls : s.Recalls t) (before : s.Named) (after : t.Named)
    {id : NodeId} (known : s.lookup? (.slot f.slot) = some id) :
    s.Carries e f ↔ t.Carries e f := by
  rw [before.carries_iff known, after.carries_iff (recalls _ _ known)]

/-- So if an edge carried a flow, that edge is the one that carries it later. -/
theorem Recalls.carries_iff_eq (recalls : s.Recalls t) (before : s.Named) (after : t.Named)
    (carries : s.Carries e f) {e' : Edge} : t.Carries e' f ↔ e' = e := by
  have known := before.lookup?_slot_iff.2 carries.2.1
  rw [after.carries_iff (recalls _ _ known), (before.carries_iff known).1 carries]

theorem Fed.trans (first : Fed s fs t) (second : Fed t gs u) : Fed s (fs ++ gs) u where
  wellFormed := second.wellFormed
  named := second.named
  grows := first.grows.trans second.grows
  recalls := first.recalls.trans second.recalls
  edges e := by
    have early (f : Feed) (new : f ∈ fs) : t.Carries e f ↔ u.Carries e f := by
      obtain ⟨id, known⟩ := first.slots f new
      exact second.recalls.carries_iff first.named second.named known
    rw [second.edges, first.edges]
    simp only [List.mem_append]
    grind
  slots f new := by
    rcases List.mem_append.1 new with new | new
    · obtain ⟨id, known⟩ := first.slots f new
      exact ⟨id, second.recalls _ _ known⟩
    · exact second.slots f new
  nodes n there := by
    rcases second.nodes n there with old | ⟨f, new, body⟩
    · rcases first.nodes n old with old | ⟨f, new, body⟩
      · exact .inl old
      · exact .inr ⟨f, List.mem_append_left _ new, body⟩
    · exact .inr ⟨f, List.mem_append_right _ new, body⟩
  bindings := second.bindings.trans first.bindings

/-- Every flow that was added has its edge. -/
theorem Fed.exists_edge (fed : Fed s fs t) (new : f ∈ fs) : ∃ e ∈ t.edges, t.Carries e f := by
  obtain ⟨id, known⟩ := fed.slots f new
  have carries := (fed.named.carries_iff known).2 rfl
  exact ⟨_, (fed.edges _).2 (.inr ⟨f, new, carries⟩), carries⟩

/-! ### What feeding leaves alone -/

theorem Fed.node?_cases (ok : s.WellFormed) (fed : Fed s fs t) {id : NodeId} {n : Node}
    (there : t.node? id = some n) :
    s.node? id = some n ∨ ∃ f ∈ fs, n.body = .entity (.slot f.slot) := by
  have same := fed.wellFormed.id_of_node? there
  rcases fed.nodes n (fed.wellFormed.mem_nodes_iff.2 (same.symm ▸ there)) with old | new
  · left
    have known := ok.mem_nodes_iff.1 old
    rwa [same] at known
  · exact .inr new

/-- Feeding makes no operations. -/
theorem Fed.operationAt_eq (ok : s.WellFormed) (fed : Fed s fs t) (id : NodeId) :
    t.operationAt id = s.operationAt id := by
  cases there : t.operationAt id with
  | some o =>
    obtain ⟨n, at_id, isOp⟩ := operationAt_eq_some_iff.1 there
    rcases fed.node?_cases ok at_id with old | ⟨f, -, body⟩
    · exact (operationAt_eq_some_iff.2 ⟨n, old, isOp⟩).symm
    · rw [Node.operation?, body] at isOp
      cases isOp
  | none =>
    cases before : s.operationAt id with
    | none => rfl
    | some o => rw [fed.grows.operationAt before] at there; cases there

/-! ### One flow -/

/-- The store in which a flow has been added: its slot has a node, and there is an edge to it. -/
def feed (s : Store) (f : Feed) : Store :=
  let (dst, s) := s.internEntity (.slot f.slot)
  if ⟨f.src, dst, f.site⟩ ∈ s.edges then s else s.link ⟨f.src, dst, f.site⟩

theorem edges_internEntity (s : Store) (x : Entity) : (s.internEntity x).2.edges = s.edges := by
  unfold internEntity
  split <;> rfl

theorem windowBindings_internEntity (s : Store) (x : Entity) :
    (s.internEntity x).2.windowBindings = s.windowBindings := by
  unfold internEntity
  split <;> rfl

theorem mem_nodes_internEntity {x : Entity} {n : Node} (there : n ∈ (s.internEntity x).2.nodes) :
    n ∈ s.nodes ∨ n.body = .entity x := by
  unfold internEntity at there
  split at there
  case h_1 => exact .inl there
  case h_2 =>
    have listed : n ∈ (s.push (.entity x)).nodes := there
    rw [nodes_push, List.mem_append, List.mem_singleton] at listed
    exact listed.imp_right fun new => by rw [new]

/-- What a name stands for is a plain node. -/
theorem Named.isOperand (named : s.Named) {k : Entity.Key} {id : NodeId}
    (known : s.lookup? k = some id) : s.isOperand id := by
  obtain ⟨x, there, -⟩ := (named k id).1 known
  exact isOperand_of_node? there rfl

/-- An edge from a plain node to the node of a slot is a flow. -/
theorem fed_join (ok : s.WellFormed) (named : s.Named) (src : s.isOperand f.src) {dst : NodeId}
    (known : s.lookup? (.slot f.slot) = some dst) :
    Fed s [f] (if ⟨f.src, dst, f.site⟩ ∈ s.edges then s else s.link ⟨f.src, dst, f.site⟩) := by
  split
  case isTrue there =>
    refine ⟨ok, named, .refl s, .refl s, fun x => ?_, by simpa using ⟨dst, known⟩, fun _ => .inl,
      rfl⟩
    simp only [List.mem_singleton, exists_eq_left, named.carries_iff known]
    constructor
    · exact .inl
    · rintro (old | rfl)
      · exact old
      · exact there
  case isFalse fresh =>
    have step : PlainStep s (s.link ⟨f.src, dst, f.site⟩) :=
      .joined _ src (named.isOperand known) fresh
    refine ⟨step.wellFormed ok, step.keepsNames named, step.grows, step.recalls, fun x => ?_,
      by simpa using ⟨dst, known⟩, fun n there => .inl (nodes_link s _ ▸ there),
      windowBindings_link s _⟩
    have carried := (step.keepsNames named).carries_iff (e := x) (step.recalls _ _ known)
    rw [edges_link, List.mem_cons, or_comm]
    simp only [List.mem_singleton, exists_eq_left, carried]

/-- Giving a slot a node prepares a flow into the slot. -/
theorem Fed.of_internEntity
    (fed : Fed (s.internEntity (.slot f.slot)).2 [f] t) : Fed s [f] t where
  wellFormed := fed.wellFormed
  named := fed.named
  grows := (internEntity_step s _).grows.trans fed.grows
  recalls := (internEntity_step s _).recalls.trans fed.recalls
  edges x := by rw [fed.edges, edges_internEntity]
  slots := fed.slots
  nodes n there := by
    rcases fed.nodes n there with old | new
    · rcases mem_nodes_internEntity old with old | body
      · exact .inl old
      · exact .inr ⟨f, by simp, body⟩
    · exact .inr new
  bindings := fed.bindings.trans (windowBindings_internEntity s _)

/-- A plain node can be fed to any slot. -/
theorem fed_feed (ok : s.WellFormed) (named : s.Named) (src : s.isOperand f.src) :
    Fed s [f] (s.feed f) := by
  have step := internEntity_step s (.slot f.slot)
  refine .of_internEntity ?_
  exact fed_join (step.wellFormed ok) (step.keepsNames named) (step.grows.isOperand src)
    (lookup?_internEntity s (.slot f.slot))

/-- The store in which flows have been added one after the other. -/
def feedAll (s : Store) (fs : List Feed) : Store := fs.foldl feed s

theorem fed_feedAll (ok : s.WellFormed) (named : s.Named) (srcs : ∀ f ∈ fs, s.isOperand f.src) :
    Fed s fs (s.feedAll fs) := by
  induction fs generalizing s with
  | nil => exact .refl ok named
  | cons f fs ih =>
    have first := fed_feed ok named (srcs f (by simp))
    refine first.trans (ih first.wellFormed first.named fun g later => ?_)
    exact first.grows.isOperand (srcs g (List.mem_cons_of_mem _ later))

end Store

/-! ### What is owed to handlers -/

/-- The flows of a listener and a view into a handler, where there are such. -/
def Target.feeds (t : Target) (listener view : NodeId) (site : Site) : List Feed :=
  (if listener ≠ 0 then [⟨listener, .this t.method, site⟩] else []) ++
    match t.handler.viewParam? with
    | some i => if view ≠ 0 then [⟨view, .param t.method i, site⟩] else []
    | none => []

namespace Resolver

/-- The flows of a listener and a view into the handlers of a registration that a class has. -/
def classFeeds (r : Resolver) (reg : Registration) (listener view : NodeId) (site : Site)
    (className : String) : List Feed :=
  (r.targets reg className).flatMap (·.feeds listener view site)

/-- The table entry of the interface that an operation registers. -/
def registrationAt? (r : Resolver) (s : Store) (op : NodeId) : Option Registration :=
  (s.operationAt op).bind fun o => r.table.byInterface? o.listener

/-- The flows that a confirmed binding is owed. -/
def wireFeeds (r : Resolver) (s : Store) (k : Wire) : List Feed :=
  match s.operationAt k.op, r.registrationAt? s k.op, s.node? k.listener with
  | some o, some reg, some l => r.classFeeds reg k.listener k.view o.site l.className
  | _, _, _ => []

end Resolver

theorem Target.mem_feeds {t : Target} {listener view : NodeId} {site : Site} {x : Feed} :
    x ∈ t.feeds listener view site ↔ (listener ≠ 0 ∧ x = ⟨listener, .this t.method, site⟩) ∨
      ∃ i, t.handler.viewParam? = some i ∧ view ≠ 0 ∧ x = ⟨view, .param t.method i, site⟩ := by
  unfold feeds
  rw [List.mem_append]
  refine or_congr ?_ ?_
  · split <;> simp_all
  · cases t.handler.viewParam? with
    | none => simp
    | some i =>
      simp only [Option.some.injEq, exists_eq_left']
      split <;> simp_all

/-- A confirmed binding is owed the flows into the methods that virtual dispatch finds on the class
of the listener. -/
theorem Resolver.mem_wireFeeds {r : Resolver} {s : Store} {k : Wire} {x : Feed} :
    x ∈ r.wireFeeds s k ↔ ∃ o reg n h c, s.operationAt k.op = some o ∧
      r.table.byInterface? o.listener = some reg ∧ s.node? k.listener = some n ∧
      h ∈ reg.handlers ∧ r.hierarchy.dispatch? h.method n.className = some c ∧
      x ∈ Target.feeds ⟨h, methodName c h.method⟩ k.listener k.view o.site := by
  unfold wireFeeds registrationAt?
  cases isOp : s.operationAt k.op with
  | none => simp
  | some o =>
    cases found : r.table.byInterface? o.listener with
    | none => simp [found]
    | some reg =>
      cases there : s.node? k.listener with
      | none => simp
      | some n =>
        simp only [Option.bind_some, found, classFeeds, List.mem_flatMap, targets,
          List.mem_filterMap, target?, Option.map_eq_some_iff, Option.some.injEq]
        constructor
        · rintro ⟨_, ⟨h, listed, c, resolved, rfl⟩, fed⟩
          exact ⟨o, reg, n, h, c, rfl, found, rfl, listed, resolved, fed⟩
        · rintro ⟨_, _, _, h, c, rfl, found', rfl, listed, resolved, fed⟩
          obtain rfl := Option.some.inj (found.symm.trans found')
          exact ⟨_, ⟨h, listed, c, resolved, rfl⟩, fed⟩

/-- The nodes, if there are such, are plain ones. -/
def Store.Joinable (s : Store) (listener view : NodeId) : Prop :=
  (listener ≠ 0 → s.isOperand listener) ∧ (view ≠ 0 → s.isOperand view)

theorem methodName_ne (className subsignature : String) : methodName className subsignature ≠ "" := by
  simp [methodName]

theorem method_ne_of_mem_targets {r : Resolver} {reg : Registration} {c : String} {t : Target}
    (there : t ∈ r.targets reg c) : t.method ≠ "" := by
  obtain ⟨h, -, found⟩ := List.mem_filterMap.1 there
  obtain ⟨d, -, rfl⟩ := Option.map_eq_some_iff.1 found
  exact methodName_ne d h.method

/-- An operation that registers an interface of the table has its entry looked up. -/
theorem Dispatch.registration_eq {r : Resolver} {op : NodeId} {reg : Registration} {w : Workspace}
    (entry : r.registrationAt? w.store op = some reg) : registration r op w = .ok reg w := by
  obtain ⟨o, isOp, found⟩ := Option.bind_eq_some_iff.1 entry
  have here : (w.store.node? op).bind (·.operation?) = some o := isOp
  have ran : (store : Work Store) w = .ok w.store w := rfl
  rw [registration, bind_of_ok ran]
  simp only [here, found]
  rfl

/-! ### Steps that feed -/

/-- Wherever flows have been added to `s`, the step adds the flows `new` to them. It fails only if it
is not `ready`. -/
def Feeding (s : Store) (ready : Prop) (step : Work Unit) (new : List Feed) : Prop :=
  Accrues (fun fs w => s.Fed fs w.store) (fun _ _ => ¬ ready) step new

namespace Feeding

variable {s : Store} {ready ready' : Prop} {step : Work Unit} {new : List Feed}

theorem mono (feeding : Feeding s ready step new) (enough : ready' → ready) :
    Feeding s ready' step new :=
  fun old => (feeding old).conseq (fun _ fed => fed) (fun _ _ fed => fed)
    fun _ _ failed holds => failed (enough holds)

/-- A step beside the graph adds nothing. -/
theorem nothing (spares : Spares step) : Feeding s ready step [] :=
  Accrues.nothing fun old => spares (s.Fed old) _

/-! ### The steps of dispatch -/

theorem edgeToLocal {src : NodeId} {l : Local} {site : Site} (named : l.isNamed) :
    Feeding s (s.isOperand src) (Dispatch.edgeToLocal src l site) [⟨src, l, site⟩] := by
  intro old
  have granted (t : Store) : t.internLocal l = .ok (t.internEntity (.slot l)) := by
    simp [Store.internLocal, Store.internOr, Entity.ofLocal?, named]
  refine Triple.bind (M := fun dst w => ∃ t, s.Fed old t ∧ t.internEntity (.slot l) = (dst, w.store))
    (Triple.onStore ?_ ?_) fun dst => ?_
  · intro w dst t fed made
    exact ⟨w.store, fed, Except.ok.inj ((granted _).symm.trans made)⟩
  · intro w e _ refused
    cases (granted _).symm.trans refused
  refine Triple.bind (M := fun _ w => s.Fed (old ++ [⟨src, l, site⟩]) w.store)
    (Triple.within (Triple.onStore ?_ ?_)) fun added => ?_
  · rintro w added t ⟨before, fed, made⟩ joined
    obtain ⟨src', -, -, rfl⟩ := Store.addEdge_eq_ok_iff.1 joined
    refine fed.trans (.of_internEntity ?_)
    have known := Store.lookup?_internEntity before (.slot l)
    have step := Store.internEntity_step before (.slot l)
    rw [made] at known step ⊢
    exact Store.fed_join (step.wellFormed fed.wellFormed) (step.keepsNames fed.named) src' known
  · rintro w e ⟨before, fed, made⟩ refused plain
    have known := Store.lookup?_internEntity before (.slot l)
    have step := Store.internEntity_step before (.slot l)
    rw [made] at known step
    have src' := step.grows.isOperand (fed.grows.isOperand plain)
    have dst' := (step.keepsNames fed.named).isOperand known
    cases (Store.addEdge_of_plain (e := ⟨src, dst, site⟩) src' dst').symm.trans refused
  · exact Triple.ite (fun _ => Spares.countDispatch _ (s.Fed _) _) fun _ => Spares.pure (s.Fed _) _

theorem connect {t : Target} (named : t.method ≠ "") (listener view : NodeId) (site : Site) :
    Feeding s (s.Joinable listener view) (Dispatch.connect t listener view site)
      (t.feeds listener view site) := by
  have receiver (given : listener ≠ 0) :
      Feeding s (s.Joinable listener view) (Dispatch.edgeToLocal listener (.this t.method) site)
        [⟨listener, .this t.method, site⟩] :=
    (edgeToLocal (by simp [Local.isNamed, Local.this, named])).mono fun joinable => joinable.1 given
  have viewed : Feeding s (s.Joinable listener view)
      (match t.handler.viewParam? with
        | some i => if view ≠ 0 then Dispatch.edgeToLocal view (.param t.method i) site else pure ()
        | none => pure ())
      (match t.handler.viewParam? with
        | some i => if view ≠ 0 then [⟨view, .param t.method i, site⟩] else []
        | none => []) := by
    split
    · refine Accrues.ite (fun given => ?_) fun absent => ?_
      · rw [if_pos given]
        exact (edgeToLocal (by simp [Local.isNamed, Local.param, named])).mono
          fun joinable => joinable.2 given
      · rw [if_neg absent]
        exact nothing .pure
    · exact nothing .pure
  unfold Target.feeds
  refine Accrues.ite (fun given => ?_) fun absent => ?_
  · rw [if_pos given]
    exact (receiver given).andThen viewed
  · rw [if_neg absent]
    exact viewed

theorem reportUnresolved (c : String) (methods : List String) :
    Spares (Dispatch.reportUnresolved c methods) :=
  .ite (.bind (.countDispatch _) fun _ => .note _) .pure

theorem wireClass (r : Resolver) (reg : Registration) (listener view : NodeId) (site : Site)
    (c : String) :
    Feeding s (s.Joinable listener view) (Dispatch.wireClass r reg listener view site c)
      (r.classFeeds reg listener view site c) :=
  (nothing (reportUnresolved _ _)).andThen
    (Accrues.forM fun _ there => connect (method_ne_of_mem_targets there) _ _ _)

/-- Where the operation is the one of `s`, its registration is found in the table. -/
theorem registration (r : Resolver) (op : NodeId) {P : Store → Prop}
    (same : ∀ t, P t → t.operationAt op = s.operationAt op) :
    Triple (fun w => P w.store) (Dispatch.registration r op)
      (fun reg w => r.registrationAt? s op = some reg ∧ P w.store)
      fun _ _ => r.registrationAt? s op = none := by
  refine Triple.bind Triple.store fun t => ?_
  rintro w ⟨rfl, holds⟩
  have here : (w.store.node? op).bind (·.operation?) = s.operationAt op := same w.store holds
  unfold Resolver.registrationAt?
  rw [here]
  cases s.operationAt op with
  | none => rfl
  | some o =>
    simp only [Option.bind_some]
    cases found : r.table.byInterface? o.listener with
    | none => rfl
    | some reg => exact ⟨rfl, holds⟩

/-- A confirmed binding of a listener that exists is wired as it is owed. -/
theorem wire (ok : s.WellFormed) (r : Resolver) {k : Wire} {l : Node}
    (known : s.node? k.listener = some l) :
    Feeding s ((r.registrationAt? s k.op).isSome ∧ s.Joinable k.listener k.view)
      (Dispatch.wire r k) (r.wireFeeds s k) := by
  intro old
  have registered := registration (P := s.Fed old) r k.op fun _ fed =>
    fed.operationAt_eq ok k.op
  refine Triple.bind (registered.conseq (fun _ fed => fed) (fun _ _ h => h)
    fun _ _ none ready => by simp [none] at ready) fun reg => ?_
  refine Triple.assuming fun found => Triple.bind Triple.store fun t => ?_
  rintro w ⟨rfl, fed⟩
  obtain ⟨o, isOp, -⟩ := Option.bind_eq_some_iff.1 found
  have there : w.store.node? k.listener = some l := fed.grows.node? known
  have site : ((w.store.node? k.op).bind (·.operation?)).map (·.site) = some o.site := by
    rw [show (w.store.node? k.op).bind (·.operation?) = some o from fed.grows.operationAt isOp]
    rfl
  have owed : r.wireFeeds s k = r.classFeeds reg k.listener k.view o.site l.className := by
    simp only [Resolver.wireFeeds, isOp, found, known]
  simp only [there, site, owed, Option.getD_some]
  have step := (wireClass (s := s) r reg k.listener k.view o.site l.className).andThen
    ((nothing (.countDispatch fun t => { t with wired := t.wired + 1 })).andThen
      (nothing (.note (.wiring .wired))))
  simp only [List.append_nil] at step
  exact Feeding.mono step (fun ready => ready.2) old w fed

end Feeding

/-- A flush does what waits: what the work has to do with the graph is what the flush has to do with
it. -/
theorem flush_of_work {P : Store → Prop} {fail : Fault → Workspace → Prop} {r : Resolver}
    {w : Workspace}
    (work : Triple (fun v => v.store = w.store)
      (do
        w.dispatcher.pending.forM (Dispatch.resolveDeferred r)
        w.dispatcher.wires.forM (Dispatch.wire r))
      (fun _ v => P v.store) fail) :
    Triple (· = w) (Dispatch.flush r false) (fun _ v => P v.store) fail := by
  intro v same
  subst same
  have step : Triple (fun u => u.store = v.store)
      (if v.dispatcher.pending.length + v.dispatcher.wires.length ≠ 0 then do
        note (.flushing 1 v.dispatcher.pending.length v.dispatcher.wires.length)
        v.dispatcher.pending.forM (Dispatch.resolveDeferred r)
        v.dispatcher.wires.forM (Dispatch.wire r)
      else pure ())
      (fun _ u => P u.store) fail := by
    refine Triple.ite (fun _ => ?_) fun empty => ?_
    · exact Triple.bind (Spares.note _ (· = v.store) _) fun _ => work
    · have none : v.dispatcher.pending = [] ∧ v.dispatcher.wires = [] := by simpa using empty
      rwa [none.1, none.2] at work
  exact step { v with dispatcher := { v.dispatcher with pending := [], wires := [] } } rfl

end WidgetFlow
