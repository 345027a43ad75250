import WidgetFlow.Proofs.Listener.Table
import WidgetFlow.Proofs.Workspace.RoleContract

/-!
# The table entry that a registration is dispatched by

Intake looks a registration up by its method and keeps the interface of the entry on the operation.
Dispatch comes from the operation and looks the interface up, so it works by the first entry of that
interface, whichever method was called (`dispatchedBy_first_entry`). That is the entry of the method
as long as no earlier entry has the same interface; if one has, its handlers run instead
(`not_forall_dispatchedBy_own_entry`).
-/

namespace WidgetFlow

open Work

/-! ### Dispatch by an entry -/

namespace Dispatch

variable (r : Resolver) (reg : Registration)

/-- Wires a context-menu registration by a table entry. -/
def menuBy (task : DispatchTask) : Work Unit := do
  reportUnresolved task.listenerClass (r.unresolved reg task.listenerClass)
  (r.targets reg task.listenerClass).forM fun t => do
    connect t task.listener task.view task.site
    giveMenu t task.site

/-- Wires a deferred registration by a table entry. -/
def deferredBy (task : DispatchTask) : Work Unit := do
  let interface := if task.listenerClass = "" then reg.interface else task.listenerClass
  let bound := if task.parameterType = "" then interface else task.parameterType
  let found ← listenerClasses r task.listener interface bound
  let classes :=
    if found = [] then (r.hierarchy.concreteSubtypes bound).filter (r.implements · interface)
    else found
  if classes = [] then reportUnresolved interface ["no implementing class"]
  else
    classes.forM (wireClass r reg task.listener task.view task.site)
    countDispatch fun t => { t with resolved := t.resolved + 1 }

/-- Wires a confirmed binding by a table entry. -/
def wireBy (k : Wire) : Work Unit := do
  let s ← store
  match s.node? k.listener with
  | none => throw (.unknownListener k.op k.listener)
  | some l =>
    let site := (((s.node? k.op).bind (·.operation?)).map (·.site)).getD {}
    wireClass r reg k.listener k.view site l.className
    countDispatch fun t => { t with wired := t.wired + 1 }
    note (.wiring .wired)

end Dispatch

/-- All listener work of an operation is done by the handlers of a table entry. -/
structure DispatchedBy (r : Resolver) (op : NodeId) (entry : Registration) (w : Workspace) : Prop where
  menu : ∀ task, task.op = op →
    Dispatch.resolveContextMenu r task w = Dispatch.menuBy r entry task w
  deferred : ∀ task, task.op = op →
    Dispatch.resolveDeferred r task w = Dispatch.deferredBy r entry task w
  wire : ∀ k, k.op = op → Dispatch.wire r k w = Dispatch.wireBy r entry k w

variable {r : Resolver} {w w' : Workspace} {op : NodeId} {o : Operation} {entry : Registration}

/-- Dispatch goes by the entry of the interface that stands on the operation. -/
theorem dispatchedBy_of_operationAt (there : w.store.operationAt op = some o)
    (found : r.table.byInterface? o.listener = some entry) : DispatchedBy r op entry w := by
  have looked : Dispatch.registration r op w = .ok entry w := by
    have read : (store : Work Store) w = .ok w.store w := rfl
    have named : ((w.store.node? op).bind (·.operation?)) = some o := there
    rw [Dispatch.registration, bind_of_ok read]
    simp only [named, found]
    rfl
  constructor
  · rintro task rfl
    exact bind_of_ok looked
  · rintro task rfl
    exact bind_of_ok looked
  · rintro k rfl
    exact bind_of_ok looked

/-- It stays so, whatever is done. -/
theorem Served.dispatchedBy {s : Store} (served : Served s w) (there : s.operationAt op = some o)
    (found : r.table.byInterface? o.listener = some entry) : DispatchedBy r op entry w := by
  obtain ⟨qs, graph⟩ := served
  refine dispatchedBy_of_operationAt (o := o) ?_ found
  rw [graph]
  exact (Store.run_grows s qs).operationAt there

/-! ### Entries of an interface -/

namespace ListenerTable

variable {t : ListenerTable} {reg : Registration}

/-- A method that has an entry leads to some entry of its interface. -/
theorem exists_byInterface? {method : String} (found : t.byMethod? method = some reg) :
    ∃ entry, t.byInterface? reg.interface = some entry := by
  have listed : reg ∈ t.registrations := List.mem_of_find?_eq_some found
  have some : (t.byInterface? reg.interface).isSome := by
    rw [byInterface?, List.find?_isSome]
    exact ⟨reg, listed, by simp⟩
  exact Option.isSome_iff_exists.1 some

end ListenerTable

/-! ### From the event to the operation -/

namespace Intake

variable {p : Program} {ev : OpEvent} {kind : OpKind}

/-- An event of a listener registration that is not skipped has an entry and creates an operation. -/
theorem recognize_eq_ok (known : OpKind.ofName? ev.kind = some kind)
    (listens : kind.isListener = true) (created : op ≠ 0) (done : recognize p ev w = .ok op w') :
    ∃ reg i v, p.resolver.table.byMethod? ev.listener = some reg ∧
      createOperation p ev i (some reg) v = .ok op w' := by
  obtain ⟨⟨⟩, v, -, done⟩ := bind_eq_ok done
  simp only [known] at done
  obtain ⟨receiver?, v, -, done⟩ := bind_eq_ok done
  cases receiver? with
  | none => cases done; exact absurd rfl created
  | some receiver =>
    obtain ⟨parameter?, v, -, done⟩ := bind_eq_ok done
    cases parameter? with
    | none => cases done; exact absurd rfl created
    | some parameter =>
      obtain ⟨result?, v, -, done⟩ := bind_eq_ok done
      cases result? with
      | none => cases done; exact absurd rfl created
      | some result =>
        have listens : kind.signature.listener = true := listens
        simp only [listens, if_true] at done
        cases found : p.resolver.table.byMethod? ev.listener with
        | none =>
          simp only [found] at done
          obtain ⟨⟨⟩, v, -, done⟩ := bind_eq_ok done
          cases done
          exact absurd rfl created
        | some reg =>
          simp only [found] at done
          exact ⟨reg, _, v, rfl, done⟩

/-- The operation keeps the interface of the entry, and its listener work is handed to dispatch. -/
theorem createOperation_eq_ok {i : Operands} {reg : Registration}
    (done : createOperation p ev i (some reg) w = .ok op w') :
    ∃ v o, v.store.operationAt op = some o ∧ o.listener = reg.interface ∧
      registerListener p ev i op reg v = .ok () w' := by
  obtain ⟨op', v, made, done⟩ := bind_eq_ok done
  obtain ⟨⟨⟩, v₁, counted, done⟩ := bind_eq_ok done
  obtain ⟨⟨⟩, v₂, noted, done⟩ := bind_eq_ok done
  have rest : (registerListener p ev i op' reg >>= fun _ => pure op') v₂ = .ok op w' := done
  obtain ⟨⟨⟩, v₃, registered, answered⟩ := bind_eq_ok rest
  cases counted
  cases noted
  cases answered
  have there : Triple (fun _ => True) (within (.event ev.kind ev.site) (onStore
      (·.createOperation { kind := ev.kind, operands := i, site := ev.site
                           artificial := ev.artificial, listener := reg.interface
                           contextMenu := reg.contextMenu })))
      (fun op v => ∃ o, v.store.operationAt op = some o ∧ o.listener = reg.interface)
      fun _ _ => True := by
    refine Triple.within (Triple.onStore (fun w op s _ granted => ?_) fun _ _ _ _ => trivial)
    obtain ⟨kind, -, there, -⟩ := Store.wired_of_createOperation granted
    exact ⟨_, there, rfl⟩
  obtain ⟨o, there, listener⟩ := there.of_ok trivial made
  refine ⟨_, o, ?_, listener, registered⟩
  exact there

end Intake

/-- A recognized listener registration is dispatched by the first entry of the interface of its
method, from the creation of its operation on: when the event itself wires a context menu, when its
registration is flushed, and when a binding is wired. That is the entry of the method unless an
earlier one has the same interface. -/
theorem dispatchedBy_first_entry {p : Program} {ev : OpEvent} {kind : OpKind}
    (known : OpKind.ofName? ev.kind = some kind) (listens : kind.isListener = true)
    (done : Intake.recognize p ev w = .ok op w') (created : op ≠ 0) :
    ∃ reg entry, p.resolver.table.byMethod? ev.listener = some reg ∧
      p.resolver.table.IsFirstOf reg.interface entry ∧
      (p.resolver.table.IsFirstOf reg.interface reg → entry = reg) ∧
      ∃ i v, Intake.registerListener p ev i op reg v = .ok () w' ∧
        (∀ u, Served v.store u → DispatchedBy p.resolver op entry u) ∧
        ∀ acts, Served v.store (w'.run p acts) := by
  obtain ⟨reg, i, v, found, done⟩ := Intake.recognize_eq_ok known listens created done
  obtain ⟨v, o, there, listener, registered⟩ := Intake.createOperation_eq_ok done
  obtain ⟨entry, first⟩ := ListenerTable.exists_byInterface? found
  refine ⟨reg, entry, found, ListenerTable.byInterface?_eq_some_iff.1 first, fun own => ?_, i, v,
    registered, fun u served => ?_, fun acts => ?_⟩
  · exact Option.some.inj (first.symm.trans (ListenerTable.byInterface?_eq_some_iff.2 own))
  · exact served.dispatchedBy there (listener ▸ first)
  · have served : Served v.store w' :=
      (Served.registerListener p ev i op reg).of_ok ⟨[], rfl⟩ registered
    obtain ⟨qs, graph⟩ := served
    obtain ⟨qs', graph'⟩ := served_run p w' acts
    refine ⟨qs ++ qs', ?_⟩
    rw [graph', graph, Store.run_append]

/-! ### Two methods with one interface -/

def earlierEntry : Registration := { method := "s", interface := "I", handlers := [{ method := "a" }] }

def laterEntry : Registration := { method := "t", interface := "I", handlers := [{ method := "b" }] }

/-- A class implements an interface with two handlers; one method registers for the first handler and
one for the second. -/
def sharedInterface : Program where
  resolver.hierarchy.classes :=
    [{ name := "I", isInterface := true, methods := ["a", "b"] },
     { name := "C", interfaces := ["I"], methods := ["a", "b"] }]
  resolver.table.registrations := [earlierEntry, laterEntry]

/-- A call of the second method. -/
def laterCall : OpEvent where
  kind := "set-listener"
  receiver := .ofSlot ⟨"m", "v"⟩
  parameter := .ofSlot ⟨"m", "l"⟩
  listener := "t"

/-- The task that waits for the operation of the call. -/
def laterTask (op : NodeId) : DispatchTask := { listenerClass := "I", listener := 2, view := 1, op }

theorem exists_recognized_laterCall :
    ∃ op w', Intake.recognize sharedInterface laterCall {} = .ok op w' ∧ op ≠ 0 := by
  have ran : endsWith (Intake.recognize sharedInterface laterCall {}) (fun op _ => op ≠ 0) = true := by
    decide +kernel
  obtain ⟨op, w', done, created⟩ := exists_of_endsWith ran
  exact ⟨op, w', done, of_decide_eq_true created⟩

/-- The call is dispatched by the entry of the first method. -/
theorem dispatchedBy_first_entry_laterCall :
    ∃ op w', Intake.recognize sharedInterface laterCall {} = .ok op w' ∧ op ≠ 0 ∧
      DispatchedBy sharedInterface.resolver op earlierEntry
        (w'.run sharedInterface [.complete false]) := by
  obtain ⟨op, w', done, created⟩ := exists_recognized_laterCall
  obtain ⟨reg, entry, found, first, -, i, v, -, dispatched, later⟩ :=
    dispatchedBy_first_entry (show OpKind.ofName? laterCall.kind = some .setListener from rfl) rfl
      done created
  obtain rfl : laterEntry = reg := Option.some.inj found
  obtain rfl : earlierEntry = entry :=
    Option.some.inj (ListenerTable.byInterface?_eq_some_iff.2 first)
  exact ⟨op, w', done, created, dispatched _ (later _)⟩

/-- So it is not so that a call is dispatched by the entry of its own method. -/
theorem not_forall_dispatchedBy_own_entry :
    ¬ ∀ (rs : List Registration) (p : Program) (ev : OpEvent) (w w' : Workspace) (op : NodeId)
        (reg : Registration), ListenerTable.ofRegistrations rs = .ok p.resolver.table →
      ev.kind = OpKind.setListener.name → Intake.recognize p ev w = .ok op w' → op ≠ 0 →
      p.resolver.table.byMethod? ev.listener = some reg →
      ∀ acts, DispatchedBy p.resolver op reg (w'.run p acts) := by
  intro claim
  have ran : endsWith (Intake.recognize sharedInterface laterCall {}) (fun op w' =>
      endsWith (Dispatch.resolveDeferred sharedInterface.resolver (laterTask op) w') fun _ v =>
      endsWith (Dispatch.deferredBy sharedInterface.resolver laterEntry (laterTask op) w')
        fun _ v' => op ≠ 0 ∧ v.store ≠ v'.store) = true := by decide +kernel
  obtain ⟨op, w', done, ran⟩ := exists_of_endsWith ran
  obtain ⟨⟨⟩, v, resolved, ran⟩ := exists_of_endsWith ran
  obtain ⟨⟨⟩, v', resolved', ran⟩ := exists_of_endsWith ran
  obtain ⟨created, differ⟩ := of_decide_eq_true ran
  have own := claim [earlierEntry, laterEntry] sharedInterface laterCall {} w' op laterEntry rfl
    rfl done created rfl []
  have same := own.deferred (laterTask op) rfl
  rw [show w'.run sharedInterface [] = w' from rfl, resolved, resolved'] at same
  cases same
  exact differ rfl

end WidgetFlow
