import WidgetFlow.Proofs.Facts.Breaches
import WidgetFlow.Proofs.Workspace.Accounting

/-!
# Menus are never shared

Two things make up context menus: the override of a view, which takes one, and a recognized call that
registers a handler of context menus, which hands one to each of its methods that takes one. All other
work spares the menus, and so does the completion of the graph. So the objects that were made up are
the menus of the overrides and of the registrations of a run, one for each, and every menu has one
edge, into the menu parameter that it was made for (`menus_of_run`).
-/

namespace WidgetFlow

open Work

/-! ### The menus that are due -/

/-- The menu that an override takes. -/
def Question.gift? (q : Question) : Option Gift := q.method?.map fun m => ⟨.param m 0, q.site⟩

/-- The menu that a handler takes. -/
def Target.gift? (t : Target) (site : Site) : Option Gift :=
  t.handler.menuParam?.map fun i => ⟨.param t.method i, site⟩

/-- An operation, and the recognized call that it was created for. -/
structure Creation where
  op : NodeId
  call : OpEvent
  deriving DecidableEq, Inhabited

/-- The menus that a call has handed out, if it registers a handler of context menus: one for each
handler that takes a menu and that the class of the registration has. The handlers are those of the
table entry of the interface. -/
def Creation.gifts (r : Resolver) (s : Store) (c : Creation) : List Gift :=
  match s.operationAt c.op, r.registrationAt? s c.op with
  | some o, some reg =>
    if o.contextMenu then
      let listener := (s.operand c.op .parameter).toOption.getD 0
      (r.targets reg (Intake.contextMenuHandler s c.call listener)).filterMap (·.gift? o.site)
    else []
  | _, _ => []

namespace Activity

/-- The operation that an activity creates for the call that it reports. -/
def creation? (p : Program) (w : Workspace) (a : Activity) : Option Creation :=
  (a.call? p).bind fun call =>
    match Intake.recognize p call w with
    | .ok op _ => if op = 0 then none else some ⟨op, call⟩
    | .error _ _ => none

/-- The menus that an activity makes up. -/
def gifts (p : Program) (w : Workspace) (a : Activity) : List Gift :=
  ((a.question? p w).bind (·.gift?)).toList ++
    (a.creation? p w).toList.flatMap (·.gifts p.resolver (w.perform p a).store)

end Activity

namespace Workspace

/-- The operations that are created while activities are done. -/
def creations (p : Program) (w : Workspace) : List Activity → List Creation
  | [] => []
  | a :: acts => (a.creation? p w).toList ++ (w.perform p a).creations p acts

/-- The menus that are made up while activities are done. -/
def gifts (p : Program) (w : Workspace) : List Activity → List Gift
  | [] => []
  | a :: acts => a.gifts p w ++ (w.perform p a).gifts p acts

end Workspace

/-! ### Overrides -/

namespace Store

variable {s : Store} {x : NodeId}

theorem endowed_override (ok : s.WellFormed) (named : s.Named) (view : s.IsEntity x) (m : String)
    (site : Site) : s.Endowed [⟨.param m 0, site⟩] (s.override x m site) := by
  have first := Spared.internEntity s (.slot (.this m))
  have second := Spared.internEntity (s.internEntity (.slot (.this m))).2 (.slot (.param m 0))
  have prepared := (first.trans second).endowed ok named
  let ready := ((s.internEntity (.slot (.this m))).2.internEntity (.slot (.param m 0))).2
  have made : ready.PlainStep (ready.newAllocation contextMenuClass .contextMenu).2 := .madeUp _ _
  refine prepared.trans (endowed_give prepared.wellFormed prepared.named ?_ ?_)
  · have receiver := isEntity_internEntity named (.slot (.this m))
    refine Spared.join (made.wellFormed prepared.wellFormed) ?_ ?_
    · exact (view.grow prepared.grows).grow made.grows
    · exact (receiver.grow second.grows).grow made.grows
  · rw [lookup?_join]
    exact lookup?_internEntity _ (.slot (.param m 0))

/-- Recording a flow joins two entities, and the first of them is the source. -/
theorem spared_record (ok : s.WellFormed) (named : s.Named) (e e' : Entity) (site : Site) :
    Spared s (s.record e e' site) ∧ (s.record e e' site).IsEntity (s.internEntity e).1 := by
  have first := Spared.internEntity s e
  have second := Spared.internEntity (s.internEntity e).2 e'
  have src := (isEntity_internEntity named e).grow second.grows
  have dst := isEntity_internEntity (first.named named) e'
  have joined : Spared _ (s.record e e' site) :=
    .join ((first.trans second).wellFormed ok) src dst
  exact ⟨(first.trans second).trans joined, src.grow joined.grows⟩

/-- A flow makes up the menu of the override that it wires, and no other. -/
theorem endowed_draw {p : Program} {w : Workspace} (ok : w.store.WellFormed) (named : w.store.Named)
    (f : Passage) :
    w.store.Endowed ((f.question? p w).bind (·.gift?)).toList (f.draw p w) := by
  have none (unraised : f.question? p w = none) (spared : Spared w.store (f.draw p w)) :
      w.store.Endowed ((f.question? p w).bind (·.gift?)).toList (f.draw p w) := by
    rw [unraised]
    exact spared.endowed ok named
  cases source : f.source.entity? with
  | none =>
    refine none (by simp [Passage.question?, source]) ?_
    simp only [Passage.draw, source]
    exact .refl w.store
  | some e =>
    cases target : f.target.entity? with
    | none =>
      refine none (by simp [Passage.question?, source, target]) ?_
      simp only [Passage.draw, source, target]
      exact .internEntity w.store e
    | some e' =>
      obtain ⟨recorded, src⟩ := spared_record ok named e e' f.site
      cases raised : f.question? p w with
      | none =>
        simp only [Passage.draw, source, target, raised]
        exact recorded.endowed ok named
      | some q =>
        simp only [Passage.draw, source, target, raised, Option.elim_some, Option.bind_some,
          Question.gift?, Question.draw]
        cases q.method? with
        | none => exact recorded.endowed ok named
        | some m =>
          obtain ⟨⟨-, -, e₁, source', same, -⟩, -⟩ := Passage.question?_eq_some_iff.1 raised
          obtain rfl := Option.some.inj (source.symm.trans source')
          exact (recorded.endowed ok named).trans (endowed_override
            (recorded.wellFormed ok) (recorded.named named) (same ▸ src) m q.site)

end Store

/-! ### Registrations of context menus -/

/-- The nodes, if there are such, are entities. -/
def Store.AreEntities (s : Store) (listener view : NodeId) : Prop :=
  (listener ≠ 0 → s.IsEntity listener) ∧ (view ≠ 0 → s.IsEntity view)

namespace Store.AreEntities

variable {s t : Store} {listener view : NodeId}

theorem grow (entities : s.AreEntities listener view) (grows : s.Grows t) :
    t.AreEntities listener view :=
  ⟨fun given => (entities.1 given).grow grows, fun given => (entities.2 given).grow grows⟩

theorem joinable (entities : s.AreEntities listener view) : s.Joinable listener view :=
  ⟨fun given => (entities.1 given).isOperand, fun given => (entities.2 given).isOperand⟩

theorem isEntity_src (entities : s.AreEntities listener view) {f : Feed} (given : f.src ≠ 0)
    (src : f.src = listener ∨ f.src = view) : s.IsEntity f.src := by
  rcases src with same | same
  · exact same ▸ entities.1 (same ▸ given)
  · exact same ▸ entities.2 (same ▸ given)

end Store.AreEntities

namespace Dispatch

variable {s : Store} {t : Target} {gs : List Gift} {r : Resolver} {task : DispatchTask}
  {listener view : NodeId}

/-- Entities are fed to a handler, which spares the menus. -/
theorem connect_endows (named : t.method ≠ "") (entities : s.AreEntities listener view)
    (site : Site) :
    Triple (fun w => s.Endowed gs w.store) (connect t listener view site)
      (fun _ w => s.Endowed gs w.store) fun _ _ => False := by
  intro w endowed
  have entities := entities.grow endowed.grows
  refine (Feeding.connect (s := w.store) named listener view site []).conseq (fun _ start => start)
    (fun _ v fed => ?_) (fun _ _ failed => failed entities.joinable) w
    (.refl endowed.wellFormed endowed.named)
  refine endowed.spared (.of_fed endowed.wellFormed fed fun f listed => ?_)
  rw [List.nil_append] at listed
  rcases Target.mem_feeds.1 listed with ⟨given, rfl⟩ | ⟨i, -, given, rfl⟩
  · exact entities.1 given
  · exact entities.2 given

/-- A handler that takes a menu is handed one. -/
theorem giveMenu_endows (named : t.method ≠ "") (site : Site) :
    Accrues (fun gs w => s.Endowed gs w.store) (fun _ _ => False) (giveMenu t site)
      (t.gift? site).toList := by
  unfold giveMenu Target.gift?
  cases t.handler.menuParam? with
  | none => exact Accrues.nothing fun _ => Triple.pure fun _ endowed => endowed
  | some i =>
    intro old w endowed
    let made := (w.store.newAllocation contextMenuClass .contextMenu).2
    have slot : (Local.param t.method i).isNamed := by simp [Local.isNamed, Local.param, named]
    have spared := Store.Spared.internEntity made (.slot (.param t.method i))
    have known := Store.lookup?_internEntity made (.slot (.param t.method i))
    have step : w.store.PlainStep made := .madeUp _ _
    have menu : made.isOperand w.store.nextId :=
      Store.isOperand_of_node? (Store.node?_push_nextId _ _) rfl
    have param := spared.named (step.keepsNames endowed.named)
    obtain ⟨added, granted⟩ := Store.addEdge_eq_join (spared.grows.isOperand menu)
      (param.isOperand known) site
    obtain ⟨w', ran, graph, -⟩ := edgeToLocal_eq (w := { w with store := made }) slot granted
    have given := endowed.trans (Store.endowed_give (g := ⟨.param t.method i, site⟩)
      endowed.wellFormed endowed.named spared known)
    rw [← graph] at given
    have whole : (do
        let menu ← onStore' (·.newAllocation contextMenuClass .contextMenu)
        edgeToLocal menu (.param t.method i) site : Work Unit) w = .ok () w' := ran
    simp only [whole]
    exact given

/-- A registration of a context menu hands out the menus that its handlers take. -/
theorem resolveContextMenu_endows {reg : Registration}
    (entry : r.registrationAt? s task.op = some reg)
    (entities : s.AreEntities task.listener task.view) :
    Accrues (fun gs w => s.Endowed gs w.store) (fun _ _ => False) (resolveContextMenu r task)
      ((r.targets reg task.listenerClass).filterMap (·.gift? task.site)) := by
  intro old w endowed
  have targets : Accrues (fun gs w => s.Endowed gs w.store) (fun _ _ => False)
      ((r.targets reg task.listenerClass).forM fun t => do
        connect t task.listener task.view task.site
        giveMenu t task.site)
      ((r.targets reg task.listenerClass).flatMap fun t => (t.gift? task.site).toList) := by
    refine Accrues.forM fun t listed => ?_
    have named : t.method ≠ "" := method_ne_of_mem_targets listed
    exact (Accrues.nothing fun _ => connect_endows named entities task.site).andThen
      (giveMenu_endows named task.site)
  have reported : Accrues (fun gs w => s.Endowed gs w.store) (fun _ _ => False)
      (reportUnresolved task.listenerClass (r.unresolved reg task.listenerClass)) [] :=
    Accrues.nothing fun gs => Feeding.reportUnresolved _ _ (s.Endowed gs) _
  have found := registration_eq (Resolver.registrationAt?_of_grows entry endowed.grows)
  unfold resolveContextMenu
  rw [bind_of_ok found, List.filterMap_eq_flatMap_toList]
  exact (reported.andThen targets) old w endowed

end Dispatch

/-! ### Recognized calls -/

namespace Store

variable {s t : Store} {op : NodeId} {o : Operation}

/-- An operation keeps the nodes of its roles while the graph grows. -/
theorem Grows.operand_eq (grows : s.Grows t) (ok : s.WellFormed) (there : s.operationAt op = some o)
    (role : Role) : t.operand op role = s.operand op role := by
  obtain ⟨i, wired⟩ := ok.wired there
  by_cases declared : o.kind.signature.has role
  · rw [(wired.grow there grows).operand (grows.operationAt there) declared,
      wired.operand there declared]
  · rw [operand_of_not_has (grows.operationAt there) declared, operand_of_not_has there declared]

/-- The listener of a registration is a node that is there, or none. -/
theorem WellFormed.listener_known (ok : s.WellFormed) (there : s.operationAt op = some o) :
    (s.operand op .parameter).toOption.getD 0 ≠ 0 →
      (s.node? ((s.operand op .parameter).toOption.getD 0)).isSome := by
  obtain ⟨i, wired⟩ := ok.wired there
  by_cases declared : o.kind.signature.has .parameter
  · rw [wired.operand there declared]
    exact fun _ => isSome_of_isOperand
      (wired.fits.filled .parameter (mem_layout_of_has declared (by decide)))
  · rw [operand_of_not_has there declared]
    exact fun given => absurd rfl given

/-- What a node says of its class, it says from the start. -/
theorem Grows.contextMenuHandler_eq (grows : s.Grows t) (ev : OpEvent) {x : NodeId}
    (known : x ≠ 0 → (s.node? x).isSome) :
    Intake.contextMenuHandler t ev x = Intake.contextMenuHandler s ev x := by
  by_cases given : x = 0
  · subst given
    rfl
  · obtain ⟨n, there⟩ := Option.isSome_iff_exists.1 (known given)
    simp only [Intake.contextMenuHandler, there, grows.node? there]

end Store

/-- The menus of a registration are due once and for all. -/
theorem Creation.gifts_grow {r : Resolver} {s t : Store} {c : Creation} (ok : s.WellFormed)
    (grows : s.Grows t) (there : (s.operationAt c.op).isSome) : c.gifts r t = c.gifts r s := by
  obtain ⟨o, there⟩ := Option.isSome_iff_exists.1 there
  have later := grows.operationAt there
  simp only [gifts, Resolver.registrationAt?, there, later, grows.operand_eq ok there,
    grows.contextMenuHandler_eq c.call (ok.listener_known there)]

/-- Only operations that register handlers of context menus have handed out menus. -/
theorem Creation.gifts_of_plain {r : Resolver} {s : Store} {c : Creation} {o : Operation}
    (there : s.operationAt c.op = some o) (plain : o.contextMenu = false) : c.gifts r s = [] := by
  unfold gifts
  rw [there]
  split
  case h_1 o' _ same _ =>
    obtain rfl := Option.some.inj same
    rw [plain]
    rfl
  case h_2 => rfl

/-- The menus of a registration go to the handlers of its table entry, as the node of its listener has
them. -/
theorem Creation.gifts_of_wired {r : Resolver} {s : Store} {c : Creation} {o : Operation}
    {i : Operands} {reg : Registration} (there : s.operationAt c.op = some o) (wired : s.Wired c.op o i)
    (declared : o.kind.signature.has .parameter) (entry : r.registrationAt? s c.op = some reg) :
    c.gifts r s = if o.contextMenu then
      (r.targets reg (Intake.contextMenuHandler s c.call i.parameter)).filterMap (·.gift? o.site)
      else [] := by
  simp only [gifts, there, entry, wired.operand there declared]
  rfl

/-- From `v` to `w`, menus were made for these gifts, and what waits now waited before, or names
entities. -/
structure Onward (v : Workspace) (gs : List Gift) (w : Workspace) : Prop where
  endowed : v.store.Endowed gs w.store
  waiting : ∀ task ∈ w.dispatcher.pending, task ∈ v.dispatcher.pending ∨
    w.store.AreEntities task.listener task.view

namespace Onward

variable {u v w : Workspace} {gs hs : List Gift}

theorem of_endowed (endowed : v.store.Endowed gs w.store)
    (pending : w.dispatcher.pending = v.dispatcher.pending) : Onward v gs w :=
  ⟨endowed, fun _ waits => .inl (pending ▸ waits)⟩

theorem trans (first : Onward u gs v) (second : Onward v hs w) : Onward u (gs ++ hs) w where
  endowed := first.endowed.trans second.endowed
  waiting task waits := by
    rcases second.waiting task waits with before | entities
    · exact (first.waiting task before).imp_right fun entities => entities.grow second.endowed.grows
    · exact .inr entities

/-- While entities are named, they are listed. -/
theorem listing : Listing fun xs v => Onward u gs v ∧ ∀ x ∈ xs, v.store.IsEntity x where
  name := by
    rintro xs v ⟨onward, listed⟩ e
    have spared := Store.Spared.internEntity v.store e
    have named : Onward v [] { v with store := (v.store.internEntity e).2 } :=
      of_endowed (spared.endowed onward.endowed.wellFormed onward.endowed.named) rfl
    refine ⟨List.append_nil gs ▸ onward.trans named, List.forall_mem_cons.2 ⟨?_, fun x there => ?_⟩⟩
    · exact Store.isEntity_internEntity onward.endowed.named e
    · exact (listed x there).grow spared.grows
  beside := by
    rintro xs v v' ⟨onward, listed⟩ graph dispatcher
    refine ⟨⟨graph ▸ onward.endowed, ?_⟩, graph ▸ listed⟩
    rw [graph, dispatcher]
    exact onward.waiting

end Onward

namespace Intake

variable {p : Program} {ev : OpEvent} {i : Operands} {op : NodeId} {reg first : Registration}
  {v : Workspace}

/-- A registration of a context menu is wired at once: nothing waits for it. -/
theorem registerListener_wires (ok : v.store.WellFormed) (named : v.store.Named)
    (entities : v.store.AreEntities i.parameter i.receiver)
    (entry : p.resolver.registrationAt? v.store op = some first) (menu : reg.contextMenu = true) :
    ∃ w, registerListener p ev i op reg v = .ok () w ∧
      Onward v ((p.resolver.targets first (contextMenuHandler v.store ev i.parameter)).filterMap
        (·.gift? ev.site)) w := by
  let counted : Workspace := { v with dispatcher := { v.dispatcher with
    stats := { v.dispatcher.stats with immediate := v.dispatcher.stats.immediate + 1 } } }
  have waits : Lasting fun u => u.dispatcher.pending = v.dispatcher.pending :=
    { request := fun same _ => same, beside := fun same _ pending _ => pending.trans same }
  have handedOut : Accrues _ _
      (Dispatch.resolveContextMenu p.resolver (menuTask v.store ev i op)) _ :=
    Dispatch.resolveContextMenu_endows entry entities
  obtain ⟨⟨⟩, u, wired, endowed⟩ := (handedOut []).exists_ok (w := counted) (.refl ok named)
  have pending := (waits.resolveContextMenu p.resolver _).of_ok (w := counted) rfl wired
  have registered : Dispatch.register p.resolver (menuTask v.store ev i op) v = .ok () u := by
    unfold Dispatch.register
    rw [if_pos (show (menuTask v.store ev i op).contextMenu = true from rfl)]
    exact (bind_of_ok rfl).trans wired
  exact ⟨_, (registerListener_of_menu p ev i op v menu).trans (bind_of_ok registered),
    .of_endowed endowed pending⟩

/-- Any other registration waits, with the operands of the call. -/
theorem registerListener_queues (ok : v.store.WellFormed) (named : v.store.Named)
    (entities : v.store.AreEntities i.parameter i.receiver) (later : ¬ reg.contextMenu = true) :
    ∃ w, registerListener p ev i op reg v = .ok () w ∧ Onward v [] w := by
  obtain ⟨w, ran, graph, pending, -⟩ := registerListener_eq p ev i op v later
  refine ⟨w, ran, by rw [graph]; exact .refl ok named, fun task waits => ?_⟩
  rw [pending] at waits
  rcases List.mem_append.1 waits with before | new
  · exact .inl before
  · obtain rfl := List.mem_singleton.1 new
    exact .inr (graph ▸ entities)

/-- A new registration hands out the menus that are due to its operation. -/
theorem registerListener_onward {o : Operation} (ok : v.store.WellFormed) (named : v.store.Named)
    (entities : v.store.AreEntities i.parameter i.receiver)
    (entry : p.resolver.registrationAt? v.store op = some first)
    (there : v.store.operationAt op = some o) (wired : v.store.Wired op o i)
    (declared : o.kind.signature.has .parameter) (site : o.site = ev.site)
    (menus : o.contextMenu = reg.contextMenu) :
    ∃ w, registerListener p ev i op reg v = .ok () w ∧
      Onward v (Creation.gifts p.resolver w.store ⟨op, ev⟩) w := by
  have due {w : Workspace} (grows : v.store.Grows w.store) :
      Creation.gifts p.resolver w.store ⟨op, ev⟩ = if reg.contextMenu then
        (p.resolver.targets first (contextMenuHandler v.store ev i.parameter)).filterMap
          (·.gift? ev.site) else [] := by
    have already : (v.store.operationAt op).isSome := there ▸ rfl
    rw [Creation.gifts_grow ok grows already, Creation.gifts_of_wired there wired declared entry,
      site, menus]
  by_cases menu : reg.contextMenu = true
  · obtain ⟨w, ran, onward⟩ := registerListener_wires ok named entities entry menu
    exact ⟨w, ran, by rwa [due onward.endowed.grows, if_pos menu]⟩
  · obtain ⟨w, ran, onward⟩ := registerListener_queues ok named entities menu
    exact ⟨w, ran, by rwa [due onward.endowed.grows, if_neg menu]⟩

/-- From `v` to `u`, a call was answered with an operation: its menus were handed out, and it is new,
unless it is zero. -/
structure Recognized (r : Resolver) (v : Workspace) (c : Creation) (u : Workspace) : Prop where
  onward : Onward v (c.gifts r u.store) u
  fresh : c.op ≠ 0 → v.store.node? c.op = none
  made : c.op ≠ 0 → (u.store.operationAt c.op).isSome

/-- The call of a new operation has handed out the menus that are due. -/
theorem createOperation_onward {kind : OpKind} {reg? : Option Registration}
    (known : OpKind.ofName? ev.kind = some kind) (entry : EntryFor p ev kind reg?) :
    Triple (fun u => Onward v [] u ∧ ∀ role, i.get role ≠ 0 → u.store.IsEntity (i.get role))
      (createOperation p ev i reg?) (fun op => Recognized p.resolver v ⟨op, ev⟩)
      fun _ => Onward v [] := by
  rintro u ⟨onward, entities⟩
  rw [createOperation_eq]
  by_cases fits : u.store.Fits kind.signature i
  case neg =>
    obtain ⟨e, failed⟩ := makeOperation_fails known reg? fits
    rw [bind_of_error failed]
    exact onward
  obtain ⟨u', made, graph, dispatcher, -⟩ := makeOperation_eq known reg? fits
  rw [bind_of_ok made]
  have ok := onward.endowed.wellFormed
  have named := onward.endowed.named
  have spared : Store.Spared u.store u'.store := graph ▸ .operated ok fits entities
  have created : Onward v [] u' :=
    onward.trans (.of_endowed (spared.endowed ok named) (by rw [dispatcher]))
  have there : u'.store.operationAt u.store.nextId = some (ev.call kind reg?).operation := by
    rw [graph, Store.operationAt_operated, if_pos rfl]
  have fresh : v.store.node? u.store.nextId = none := by
    by_contra before
    have later := onward.endowed.grows.isSome (Option.isSome_iff_ne_none.2 before)
    simp at later
  cases reg? with
  | none =>
    refine ⟨?_, fun _ => fresh, fun _ => by rw [there]; rfl⟩
    rw [Creation.gifts_of_plain there rfl]
    exact created
  | some reg =>
    obtain ⟨-, ⟨⟩⟩ | ⟨listens, _, found, ⟨⟩⟩ := entry
    obtain ⟨first, listed⟩ := ListenerTable.exists_byInterface? found
    have entry : p.resolver.registrationAt? u'.store u.store.nextId = some first := by
      rw [Resolver.registrationAt?, there]
      exact listed
    have ends : u'.store.AreEntities i.parameter i.receiver :=
      ⟨fun given => (entities .parameter given).grow spared.grows,
        fun given => (entities .receiver given).grow spared.grows⟩
    have wired : u'.store.Wired u.store.nextId (ev.call kind (some reg)).operation i :=
      graph ▸ Store.Fits.wired fits
    have declared : kind.signature.has .parameter := by
      cases kind <;> first | rfl | cases listens
    have registers : ∃ w, registerListener p ev i u.store.nextId reg u' = .ok () w ∧ Onward u' _ w :=
      registerListener_onward (spared.wellFormed ok) (spared.named named) ends entry there wired
        declared rfl rfl
    obtain ⟨w, registered, later⟩ := registers
    simp only [bind_of_ok registered]
    refine ⟨created.trans later, fun _ => fresh, fun _ => ?_⟩
    rw [later.endowed.grows.operationAt there]
    rfl

/-- A recognized call hands out the menus that are due to its operation. -/
theorem recognize_onward (p : Program) (ev : OpEvent) :
    Triple (Onward v []) (recognize p ev) (fun op => Recognized p.resolver v ⟨op, ev⟩)
      fun _ => Onward v [] := by
  have skipped (u : Workspace) (onward : Onward v [] u) : Recognized p.resolver v ⟨0, ev⟩ u :=
    ⟨onward, fun given => absurd rfl given, fun given => absurd rfl given⟩
  rw [recognize_eq]
  refine Triple.bind (M := fun _ => Onward v [])
    (Triple.modify fun _ onward => ⟨onward.endowed, onward.waiting⟩) fun _ => ?_
  cases known : OpKind.ofName? ev.kind with
  | none => exact Triple.throw fun _ onward => onward
  | some kind =>
    have listing : Listing fun xs u => Onward v [] u ∧ ∀ x ∈ xs, u.store.IsEntity x := Onward.listing
    have naming : Triple (Onward v []) (nameRoles ev kind.signature) _ fun _ => Onward v [] :=
      (listing.nameRoles ev kind.signature).unfailing.conseq
        (fun _ onward => ⟨onward, by simp⟩) (fun _ _ named => named) fun _ _ onward => onward
    refine Triple.afterNaming naming (fun _ => ?_) fun _ i => ?_
    · exact Triple.pure fun u ⟨xs, onward, _⟩ => skipped u onward
    rintro u ⟨xs, supplied, onward, listed⟩
    have entities (role : Role) (given : i.get role ≠ 0) : u.store.IsEntity (i.get role) := by
      obtain ⟨-, none⟩ | ⟨-, there⟩ := supplied role
      · exact absurd none given
      · exact listed _ there
    have created {reg? : Option Registration} (entry : EntryFor p ev kind reg?) :=
      createOperation_onward (v := v) known entry u ⟨onward, entities⟩
    cases listens : kind.isListener with
    | false =>
      simp only [show kind.signature.listener = false from listens]
      exact created (.inl ⟨listens, rfl⟩)
    | true =>
      simp only [show kind.signature.listener = true from listens, if_true]
      cases found : p.resolver.table.byMethod? ev.listener with
      | none => exact skipped _ ⟨onward.endowed, onward.waiting⟩
      | some reg => exact created (.inr ⟨listens, reg, found, rfl⟩)

end Intake

/-! ### Window bindings -/

namespace Store

variable {s t : Store}

/-- A request that leaves nodes and edges alone spares the menus. -/
theorem Spared.of_same (step : PlainStep s t) (nodes : t.nodes = s.nodes) (edges : t.edges = s.edges) :
    Spared s t :=
  .of_step (.plain step) (by rw [Store.madeUp, nodes, Store.madeUp]) fun _ _ e _ => by rw [edges]

end Store

namespace Onward

variable {α : Type} {v : Workspace} {gs : List Gift}

/-- Requests that spare the menus hand out none, granted or refused. -/
theorem onStore {f : Store → Except Fault (α × Store)}
    (spares : ∀ s a t, f s = .ok (a, t) → s.Spared t) : Keeps (Onward v gs) (onStore f) := by
  refine Triple.onStore (fun w a t onward granted => ?_) fun _ _ onward _ => onward
  have spared := spares _ _ _ granted
  have more : Onward w [] { w with store := t } :=
    .of_endowed (spared.endowed onward.endowed.wellFormed onward.endowed.named) rfl
  exact List.append_nil gs ▸ onward.trans more

theorem intern (r : Ref) : Keeps (Onward v gs) (Work.onStore (·.intern r)) := by
  refine onStore fun s x t granted => ?_
  obtain ⟨e, -, made⟩ := Store.intern_eq_ok granted
  have spared := Store.Spared.internEntity s e
  rwa [made] at spared

theorem of_map_eq_ok {x : Except Fault Store} {a : Unit} {t : Store}
    (granted : x.map ((), ·) = .ok (a, t)) : x = .ok t := by
  cases x with
  | error => cases granted
  | ok s =>
    cases granted
    rfl

theorem bindViews (window root : Ref) : Keeps (Onward v gs) (Intake.bindViews window root) := by
  refine .bind (intern window) fun w => .bind (intern root) fun r => onStore fun s _ t granted => ?_
  have bound := of_map_eq_ok granted
  obtain ⟨nodes, edges⟩ := Store.bindWindowRoot_spares bound
  exact .of_same (Store.bindWindowRoot_step bound) nodes edges

theorem windowRoot (window producer : Ref) :
    Keeps (Onward v gs) (Intake.windowRoot window producer) := by
  refine .bind (intern window) fun w => .bind (intern producer) fun p =>
    onStore fun s _ t granted => ?_
  have added := of_map_eq_ok granted
  obtain ⟨nodes, edges⟩ := Store.addWindowRoot_spares added
  exact .of_same (Store.addWindowRoot_step added) nodes edges

end Onward

/-! ### Activities -/

namespace Activity

variable {p : Program} {w : Workspace} {a : Activity}

theorem work_of_call? {ev : OpEvent} (reports : a.call? p = some ev) :
    a.work p = (do let _ ← Intake.recognize p ev) := by
  cases a with
  | recognize => cases reports; rfl
  | tabHost host part target site =>
    obtain ⟨id, known, rfl⟩ := Option.map_eq_some_iff.1 reports
    simp only [work, Intake.tabHost, known]
    rfl
  | _ => cases reports

end Activity

/-- The workspace is in order, what waits names entities, and the objects that were made up are the
menus of these gifts. -/
structure Tended (p : Program) (gs : List Gift) (w : Workspace) : Prop where
  orderly : Orderly p.resolver w
  waiting : ∀ task ∈ w.dispatcher.pending, w.store.AreEntities task.listener task.view
  gave : w.store.Gave gs

namespace Tended

variable {p : Program} {gs : List Gift} {w : Workspace} {a : Activity}

theorem start (p : Program) : Tended p [] {} :=
  ⟨Orderly.fresh p.resolver [], by simp, Store.gave_empty⟩

/-- Completion feeds entities to handlers, and makes up nothing. -/
theorem complete (tended : Tended p gs w) (canceled : Bool) :
    Onward w [] (w.perform p (.complete canceled)) := by
  have ok := tended.orderly.wellFormed
  have named := tended.orderly.named
  cases canceled with
  | true => exact .of_endowed (.refl ok named) rfl
  | false =>
    have feeding : Triple (fun v => v.store = w.store)
        (w.dispatcher.pending.forM (Dispatch.resolveDeferred p.resolver))
        (fun _ v => w.store.Endowed [] v.store) fun _ _ => False := by
      -- Deferred handlers are fed what their registrations wait with, and that names entities.
      refine (exists_fed_deferred ok named tended.orderly.ready).mono ?_
      rintro _ v ⟨fs, fed, owed⟩
      refine (Store.Spared.of_fed ok fed fun f listed => ?_).endowed ok named
      obtain ⟨task, waits, t, owed⟩ := owed f listed
      obtain ⟨given, src⟩ := Resolver.src_of_mem_taskFeeds owed
      exact (tended.waiting task waits).isEntity_src given src
    obtain ⟨⟨⟩, v, flushed, endowed⟩ :=
      (flush_of_deferred (P := w.store.Endowed []) tended.orderly.idle feeding).exists_ok rfl
    have completed : Intake.complete p false w =
        .ok () { v with journal := .graphComplete v.store.stats :: v.journal } :=
      bind_of_ok (within_of_ok _ flushed)
    have settled := Solve.complete_idle completed
    have performed : w.perform p (.complete false) =
        { v with journal := .graphComplete v.store.stats :: v.journal } := by
      simp only [Workspace.perform, Activity.work, completed]
    rw [performed]
    refine ⟨endowed, fun task waits => ?_⟩
    rw [settled.1] at waits
    cases waits

theorem refl (tended : Tended p gs w) : Onward w [] w :=
  .of_endowed (.refl tended.orderly.wellFormed tended.orderly.named) rfl

/-- A passage hands out the menu of its override, if it wires one. -/
theorem onward_of_passage? (tended : Tended p gs w) {f : Passage} (reports : a.passage? = some f) :
    Onward w (a.gifts p w) (w.perform p a) := by
  have plain : Plain [] w := tended.orderly.sound (by simp)
  obtain ⟨w', done, graph, dispatcher, -⟩ := Intake.flow_draws (p := p) plain f
  have silent : a.call? p = none := by cases a <;> first | rfl | cases reports
  have gifts : a.gifts p w = ((f.question? p w).bind (·.gift?)).toList := by
    simp [Activity.gifts, Activity.question?, Activity.creation?, reports, silent]
  have performed : w.perform p a = w' := by
    simp only [Workspace.perform, Activity.work_of_passage? reports, done]
  have endowed := Store.endowed_draw (p := p) plain.wellFormed plain.named f
  rw [gifts, performed]
  exact .of_endowed (graph ▸ endowed) (congrArg _ dispatcher)

/-- A call hands out the menus of the operation that it creates, if it creates one. -/
theorem onward_of_call? (tended : Tended p gs w) {ev : OpEvent} (reports : a.call? p = some ev) :
    Onward w (a.gifts p w) (w.perform p a) ∧ ∀ c ∈ a.creation? p w,
      w.store.node? c.op = none ∧ ((w.perform p a).store.operationAt c.op).isSome := by
  have silent : a.passage? = none := by cases a <;> first | rfl | cases reports
  have gifts : a.gifts p w =
      (a.creation? p w).toList.flatMap (·.gifts p.resolver (w.perform p a).store) := by
    simp [Activity.gifts, Activity.question?, silent]
  have outcome := Intake.recognize_onward p ev w tended.refl
  rw [gifts]
  simp only [Workspace.perform, Activity.work_of_call? reports, Activity.creation?, reports,
    Option.bind_some]
  cases ran : Intake.recognize p ev w with
  | error e w' =>
    rw [ran] at outcome
    simp only [bind_of_error ran]
    exact ⟨outcome, by simp⟩
  | ok op w' =>
    rw [ran] at outcome
    simp only [bind_of_ok ran]
    by_cases none : op = 0
    · subst none
      exact ⟨outcome.onward, by simp⟩
    · rw [if_neg none]
      refine ⟨List.flatMap_singleton _ _ ▸ outcome.onward, fun c created => ?_⟩
      obtain rfl := Option.some.inj created
      exact ⟨outcome.fresh none, outcome.made none⟩

/-- What is neither a passage nor a call hands out nothing. -/
theorem onward_of_none (tended : Tended p gs w) (builds : a.builds) (silent : a.passage? = none)
    (mute : a.call? p = none) : Onward w (a.gifts p w) (w.perform p a) := by
  have gifts : a.gifts p w = [] := by
    simp [Activity.gifts, Activity.question?, Activity.creation?, silent, mute]
  have kept (keeps : Keeps (Onward w []) (a.work p)) : Onward w [] (w.perform p a) :=
    Workspace.perform_of_triple keeps tended.refl
  rw [gifts]
  cases a with
  | tabHost host part target site =>
    have unknown : p.resource? part = none := Option.map_eq_none_iff.1 mute
    refine kept (.bind ?_ fun _ => .pure)
    unfold Intake.tabHost
    rw [unknown]
    exact .bind (.modify fun _ onward => ⟨onward.endowed, onward.waiting⟩) fun _ =>
      .bind (.bind (.modify fun _ onward => ⟨onward.endowed, onward.waiting⟩) fun _ =>
        .modify fun _ onward => ⟨onward.endowed, onward.waiting⟩) fun _ => .pure
  | bindViews => exact kept (Onward.bindViews _ _)
  | windowRoot => exact kept (Onward.windowRoot _ _)
  | complete canceled => exact tended.complete canceled
  | assign | bindParameter | bindReturn => cases silent
  | recognize => cases mute
  | _ => cases builds

/-- Whatever builds the graph hands out the menus that are due, and no others. -/
theorem onward (tended : Tended p gs w) (builds : a.builds) :
    Onward w (a.gifts p w) (w.perform p a) := by
  cases reports : a.passage? with
  | some f => exact tended.onward_of_passage? reports
  | none =>
    cases reports' : a.call? p with
    | some ev => exact (tended.onward_of_call? reports').1
    | none => exact tended.onward_of_none builds reports reports'

theorem perform (tended : Tended p gs w) (builds : a.builds) :
    Tended p (gs ++ a.gifts p w) (w.perform p a) := by
  have onward := tended.onward builds
  refine ⟨Workspace.perform_of_triple (Activity.keeps_orderly builds) tended.orderly,
    fun task waits => ?_, onward.endowed.gave gs tended.gave⟩
  rcases onward.waiting task waits with before | entities
  · exact (tended.waiting task before).grow onward.endowed.grows
  · exact entities

theorem run (tended : Tended p gs w) {acts : List Activity} (builds : ∀ a ∈ acts, a.builds) :
    Tended p (gs ++ w.gifts p acts) (w.run p acts) := by
  induction acts generalizing gs w with
  | nil => exact (List.append_nil gs).symm ▸ tended
  | cons a acts ih =>
    have next := tended.perform (builds a List.mem_cons_self)
    have rest := ih next fun a' later => builds a' (List.mem_cons_of_mem _ later)
    rwa [List.append_assoc] at rest

/-- An operation that is created for a call is new, and stays. -/
theorem creation_made (tended : Tended p gs w) {c : Creation} (created : c ∈ a.creation? p w) :
    w.store.node? c.op = none ∧ ((w.perform p a).store.operationAt c.op).isSome := by
  obtain ⟨ev, reports, -⟩ := Option.bind_eq_some_iff.1 created
  exact (tended.onward_of_call? reports).2 c created

end Tended

/-! ### Menus of a run -/

namespace Workspace

variable {p : Program} {gs : List Gift} {w : Workspace} {acts : List Activity}

/-- The operations that are created are new, and none is created twice. -/
theorem creations_made (tended : Tended p gs w) (building : ∀ a ∈ acts, a.builds) :
    (∀ c ∈ w.creations p acts, w.store.node? c.op = none) ∧
      ((w.creations p acts).map (·.op)).Nodup := by
  induction acts generalizing gs w with
  | nil => exact ⟨by simp [creations], List.nodup_nil⟩
  | cons a acts ih =>
    have builds := building a List.mem_cons_self
    have grows := (tended.onward builds).endowed.grows
    obtain ⟨fresh, once⟩ :=
      ih (tended.perform builds) fun a' later => building a' (List.mem_cons_of_mem _ later)
    -- What is made later is not there after the first activity, so it was not there before.
    have new (c : Creation) (later : c ∈ (w.perform p a).creations p acts) :
        w.store.node? c.op = none := by
      by_contra known
      have still := grows.isSome (Option.isSome_iff_ne_none.2 known)
      rw [fresh c later] at still
      cases still
    rw [creations]
    cases created : a.creation? p w with
    | none => exact ⟨new, once⟩
    | some c =>
      obtain ⟨first, made⟩ := tended.creation_made created
      refine ⟨List.forall_mem_cons.2 ⟨first, new⟩, List.nodup_cons.2 ⟨fun again => ?_, once⟩⟩
      obtain ⟨c', later, same⟩ := List.mem_map.1 again
      have gone := fresh c' later
      rw [same] at gone
      obtain ⟨o, there⟩ := Option.isSome_iff_exists.1 made
      rw [Store.operationAt, gone] at there
      cases there

/-- The menus of a run are those of its overrides and of its registrations. -/
theorem gifts_perm (tended : Tended p gs w) (building : ∀ a ∈ acts, a.builds) :
    (w.gifts p acts).Perm ((w.questions p acts).filterMap (·.gift?) ++
      (w.creations p acts).flatMap (·.gifts p.resolver (w.run p acts).store)) := by
  induction acts generalizing gs w with
  | nil => exact .nil
  | cons a acts ih =>
    have builds := building a List.mem_cons_self
    have next := tended.perform builds
    have rest := ih next fun a' later => building a' (List.mem_cons_of_mem _ later)
    obtain ⟨qs, more⟩ : Served (w.perform p a).store ((w.perform p a).run p acts) :=
      served_run p (w.perform p a) acts
    -- The menus of the first activity are read off the graph after it; the last graph has the same.
    have due (c : Creation) (created : c ∈ (a.creation? p w).toList) :
        c.gifts p.resolver (w.perform p a).store =
          c.gifts p.resolver ((w.perform p a).run p acts).store := by
      rw [more]
      exact (Creation.gifts_grow next.orderly.wellFormed (Store.run_grows _ qs)
        (tended.creation_made (Option.mem_toList.1 created)).2).symm
    have overrides : ((a.question? p w).bind (·.gift?)).toList =
        (a.question? p w).toList.filterMap (·.gift?) := by
      cases a.question? p w with
      | none => rfl
      | some q => cases gift : q.gift? <;> simp [gift]
    rw [gifts, Activity.gifts, questions, creations, List.filterMap_append, List.flatMap_append,
      List.flatMap_congr due, overrides, List.append_assoc, List.append_assoc]
    refine .append_left _ ?_
    exact (rest.append_left _).trans (List.perm_append_comm_assoc _ _ _)

end Workspace

/-- Fresh menus are never shared. Whatever events come in and whenever construction is ended, the
objects that were made up are the menus of the overrides that were wired, one for each, and of the
registrations for which an operation was created, one for each handler with a menu parameter that the
class of the registration has. No view is wired twice and no operation is created twice. Every menu
flows into the parameter that it was made for and nowhere else, and nothing flows into a menu.
Completion makes up nothing. -/
theorem menus_of_run (p : Program) (acts : List Activity) (building : ∀ a ∈ acts, a.builds) :
    let w := Workspace.run p {} acts
    let wired := (Workspace.questions p {} acts).filter (·.method?.isSome)
    let created := Workspace.creations p {} acts
    ((wired.map (·.view)).Nodup ∧ (created.map (·.op)).Nodup) ∧
    (∃ gs, gs.Perm (wired.filterMap (·.gift?) ++ created.flatMap (·.gifts p.resolver w.store)) ∧
      List.Forall₂ w.store.Given w.store.madeUp gs) ∧
    ∀ canceled, (w.perform p (.complete canceled)).store.madeUp = w.store.madeUp := by
  intro w wired created
  have start := Tended.start p
  have tended : Tended p (Workspace.gifts p {} acts) w := start.run building
  have answered := (Workspace.heard_of_run (p := p) (w := {}) ⟨[], rfl⟩ building).2
  refine ⟨⟨answered.nodup_wired, (Workspace.creations_made start building).2⟩,
    ⟨_, ?_, tended.gave.given tended.orderly.wellFormed tended.orderly.named⟩, fun canceled => ?_⟩
  · have overrides : wired.filterMap (·.gift?) =
        (Workspace.questions p {} acts).filterMap (·.gift?) := by
      rw [List.filterMap_filter]
      refine List.filterMap_congr fun q _ => ?_
      cases method : q.method? <;> simp [Question.gift?, method]
    rw [overrides]
    exact Workspace.gifts_perm start building
  · exact (tended.complete canceled).endowed.madeUp_eq tended.gave

/-- An override and two registrations of one handler make up three menus. The registrations share the
parameter of the handler, but not the menu. -/
theorem menus_of_run_registered :
    let flow : Activity := .assign (.ofSlot ⟨"n", "v"⟩) (.ofAlloc ⟨"new V", "V", .view⟩) {}
    let acts := [flow, .recognize Facts.menuCall, .recognize Facts.menuCall, .complete false]
    let w := Workspace.run Facts.viewProgram {} acts
    let ofView : Gift := ⟨.param (methodName "V" viewContextMenu) 0, {}⟩
    let ofHandler : Gift := ⟨.param (methodName "D" "c") 0, {}⟩
    (∀ a ∈ acts, a.builds) ∧ ∃ gs, gs.Perm [ofView, ofHandler, ofHandler] ∧
      List.Forall₂ w.store.Given w.store.madeUp gs := by
  intro flow acts w ofView ofHandler
  have building : ∀ a ∈ acts, a.builds := by simp [acts, flow, Activity.builds, Activity.isEvent]
  have due : ((Workspace.questions Facts.viewProgram {} acts).filter (·.method?.isSome)).filterMap
      (·.gift?) ++ (Workspace.creations Facts.viewProgram {} acts).flatMap
        (·.gifts Facts.viewProgram.resolver w.store) = [ofView, ofHandler, ofHandler] := by
    decide +kernel
  obtain ⟨-, ⟨gs, same, given⟩, -⟩ := menus_of_run Facts.viewProgram acts building
  exact ⟨building, gs, due ▸ same, given⟩

end WidgetFlow
