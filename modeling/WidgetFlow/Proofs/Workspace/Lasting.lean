import WidgetFlow.Intake
import WidgetFlow.Proofs.Graph.Requests
import WidgetFlow.Proofs.Workspace.Triple

/-!
# Facts that outlast plain work

Most of what intake and dispatch do is plain work: requests on the store that create no operation, and
counts and notes beside the graph. Only two steps do more: one creates an operation, the other queues
its registration. A fact that is kept by plain requests, and that depends on the graph and the queues
alone, is `Lasting`; plain work keeps it, whether it ends or fails. So such a fact needs a proof only
for the two steps that are not plain. A fact that depends on some part of what intake knows as well is
`Steady`; the plain work that leaves this part alone keeps it.
-/

namespace WidgetFlow

open Work

variable {α β : Type} {inv : Workspace → Prop}

/-- The fact is kept by requests that create no operation, and by every change that leaves the graph,
the queues and a part of the state of intake alone. -/
structure Steady (part : Intake → β) (inv : Workspace → Prop) : Prop where
  request : ∀ {w : Workspace} {q : StoreRequest}, inv w → (∀ r, q ≠ .createOperation r) →
    inv { w with store := w.store.serve q }
  aside : ∀ {w w' : Workspace}, inv w → w'.store = w.store →
    w'.dispatcher.pending = w.dispatcher.pending → w'.dispatcher.wires = w.dispatcher.wires →
    part w'.intake = part w.intake → inv w'

/-- The fact is kept by requests that create no operation, and by every change that leaves the graph
and the queues alone. -/
structure Lasting (inv : Workspace → Prop) : Prop extends Steady (fun _ => ()) inv where
  beside : ∀ {w w' : Workspace}, inv w → w'.store = w.store →
    w'.dispatcher.pending = w.dispatcher.pending → w'.dispatcher.wires = w.dispatcher.wires → inv w'
  aside := fun holds graph pending wires _ => beside holds graph pending wires

/-- Counting does not touch the part of what intake knows. -/
def Counts (part : Intake → β) (f : IntakeStats → IntakeStats) : Prop :=
  ∀ i : Intake, part { i with stats := f i.stats } = part i

/-- The table entry that the operation of a recognized call is created with: the entry of its method
if it registers a listener, and else none. -/
def Intake.EntryFor (p : Program) (ev : OpEvent) (kind : OpKind) (reg? : Option Registration) :
    Prop :=
  kind.isListener = false ∧ reg? = none ∨
    kind.isListener = true ∧ ∃ reg, p.resolver.table.byMethod? ev.listener = some reg ∧ reg? = some reg

/-- Looking up the registration of an operation changes nothing. -/
theorem Keeps.registration (r : Resolver) (op : NodeId) :
    Keeps inv (Dispatch.registration r op) := by
  refine .bind .store fun s => ?_
  split
  · exact .throw
  · split
    · exact .pure
    · exact .throw

namespace Steady

variable {part : Intake → β} (lasts : Steady part inv)

include lasts

/-! ### Requests, counts and notes -/

/-- A request that is granted is served; one that is refused changes nothing. -/
theorem onStore {f : Store → Except Fault (α × Store)} {q : StoreRequest}
    (asks : ∀ s, (f s).map (·.2) = s.answer q) (plain : ∀ r, q ≠ .createOperation r) :
    Keeps inv (onStore f) := by
  refine Triple.onStore (fun w a s holds granted => ?_) fun w e holds _ => holds
  have served : w.store.serve q = s := by
    simp only [Store.serve, ← asks w.store, granted, Except.map]
  rw [← served]
  exact lasts.request holds plain

theorem intern (r : Ref) : Keeps inv (Work.onStore (·.intern r)) :=
  lasts.onStore (q := .intern r) (fun _ => rfl) (by simp)

theorem internLocal (l : Local) : Keeps inv (Work.onStore (·.internLocal l)) :=
  lasts.onStore (q := .internLocal l) (fun _ => rfl) (by simp)

theorem addEdge (src dst : NodeId) (site : Site) :
    Keeps inv (Work.onStore (·.addEdge src dst site)) :=
  lasts.onStore (q := .addEdge src dst site) (fun _ => rfl) (by simp)

theorem newAllocation (c : String) (k : ObjectKind) :
    Keeps inv (onStore' (·.newAllocation c k)) :=
  fun _ holds => lasts.request (q := .newAllocation c k) holds (by simp)

theorem note (n : Notice) : Keeps inv (note n) :=
  .modify fun _ holds => lasts.aside holds rfl rfl rfl rfl

theorem countDispatch (f : DispatchStats → DispatchStats) : Keeps inv (countDispatch f) :=
  .modify fun _ holds => lasts.aside holds rfl rfl rfl rfl

/-! ### Dispatch -/

theorem edgeToLocal (src : NodeId) (l : Local) (site : Site) :
    Keeps inv (Dispatch.edgeToLocal src l site) := by
  refine .bind (lasts.internLocal l) fun dst => ?_
  refine .bind (.within (lasts.addEdge src dst site)) fun added => ?_
  exact .ite (lasts.countDispatch _) .pure

theorem connect (t : Target) (listener view : NodeId) (site : Site) :
    Keeps inv (Dispatch.connect t listener view site) := by
  refine .ite (.bind (lasts.edgeToLocal _ _ _) fun _ => ?_) ?_
  -- With and without a listener, the view is passed on in the same way.
  all_goals
    split
    case h_1 => exact .ite (lasts.edgeToLocal _ _ _) .pure
    case h_2 => exact .pure

theorem reportUnresolved (c : String) (methods : List String) :
    Keeps inv (Dispatch.reportUnresolved c methods) :=
  .ite (.bind (lasts.countDispatch _) fun _ => lasts.note _) .pure

theorem giveMenu (t : Target) (site : Site) : Keeps inv (Dispatch.giveMenu t site) := by
  unfold Dispatch.giveMenu
  split
  · exact .bind (lasts.newAllocation _ _) fun _ => lasts.edgeToLocal _ _ _
  · exact .pure

theorem resolveContextMenu (r : Resolver) (task : DispatchTask) :
    Keeps inv (Dispatch.resolveContextMenu r task) := by
  refine .bind (.registration r task.op) fun reg => ?_
  refine .bind (lasts.reportUnresolved _ _) fun _ => .forM fun t _ => ?_
  exact .bind (lasts.connect _ _ _ _) fun _ => lasts.giveMenu _ _

theorem listenerClasses (r : Resolver) (listener : NodeId) (interface bound : String) :
    Keeps inv (Dispatch.listenerClasses r listener interface bound) := by
  refine .ite .pure (.bind ?_ fun _ => .bind .store fun _ => .pure)
  exact .bind (lasts.note _) fun _ => .bind .store fun _ => .pure

theorem wireClass (r : Resolver) (reg : Registration) (listener view : NodeId) (site : Site)
    (c : String) : Keeps inv (Dispatch.wireClass r reg listener view site c) :=
  .bind (lasts.reportUnresolved _ _) fun _ => .forM fun _ _ => lasts.connect _ _ _ _

theorem resolveDeferred (r : Resolver) (task : DispatchTask) :
    Keeps inv (Dispatch.resolveDeferred r task) := by
  refine .bind (.registration r task.op) fun reg => .bind (lasts.listenerClasses _ _ _ _) fun _ => ?_
  refine .ite (lasts.reportUnresolved _ _) (.bind (.forM fun c _ => ?_) fun _ => lasts.countDispatch _)
  exact lasts.wireClass _ _ _ _ _ c

theorem wire (r : Resolver) (k : Wire) : Keeps inv (Dispatch.wire r k) := by
  refine .bind (.registration r k.op) fun reg => .bind .store fun s => ?_
  split
  · exact .throw
  · exact .bind (lasts.wireClass _ _ _ _ _ _) fun _ => .bind (lasts.countDispatch _) fun _ =>
      lasts.note _

/-- A flush is plain work on what it takes from the queues. -/
theorem flush (takes : Keeps inv Dispatch.takeQueues) (r : Resolver) (canceled : Bool) :
    Keeps inv (Dispatch.flush r canceled) := by
  refine .bind (.ite .throw .pure) fun _ => .bind takes fun ⟨pending, wires⟩ => ?_
  refine .ite (.bind (lasts.note _) fun _ => ?_) .pure
  exact .bind (.forM fun task _ => lasts.resolveDeferred r task) fun _ =>
    .forM fun k _ => lasts.wire r k

theorem complete (takes : Keeps inv Dispatch.takeQueues) (p : Program) (canceled : Bool) :
    Keeps inv (Intake.complete p canceled) :=
  .bind (.within (lasts.flush takes _ _)) fun _ => .bind .store fun _ => lasts.note _

/-! ### Windows -/

theorem bindViews (window root : Ref) : Keeps inv (Intake.bindViews window root) := by
  refine .bind (lasts.intern window) fun w => .bind (lasts.intern root) fun r => ?_
  refine lasts.onStore (q := .bindWindowRoot w r) (fun s => ?_) (by simp)
  rw [Store.answer]
  cases s.bindWindowRoot w r <;> rfl

theorem windowRoot (window producer : Ref) : Keeps inv (Intake.windowRoot window producer) := by
  refine .bind (lasts.intern window) fun w => .bind (lasts.intern producer) fun p => ?_
  refine lasts.onStore (q := .addWindowRoot w p) (fun s => ?_) (by simp)
  rw [Store.answer]
  cases s.addWindowRoot w p <;> rfl

/-! ### Intake -/

theorem countIntake {f : IntakeStats → IntakeStats} (counts : Counts part f) :
    Keeps inv (countIntake f) :=
  .modify fun w holds => lasts.aside holds rfl rfl rfl (counts w.intake)

section Overriding

variable {p : Program} (settles : ∀ alloc, Keeps inv (Intake.settle alloc))
  (asks : ∀ subsignature className, Keeps inv (Intake.ask p subsignature className))
  (counts : Counts part fun t => { t with overrides := t.overrides + 1 })

include settles counts

theorem wireOverride (view : Node) (className : String) (site : Site) :
    Keeps inv (Intake.wireOverride view className site) := by
  refine .bind (lasts.internLocal _) fun this => .bind (lasts.internLocal _) fun param => ?_
  refine .bind (lasts.newAllocation _ _) fun menu => ?_
  refine .bind (lasts.addEdge _ _ _) fun _ => .bind (lasts.addEdge _ _ _) fun _ => ?_
  exact .bind (settles _) fun _ => .bind (lasts.countIntake counts) fun _ => lasts.note _

include asks

theorem wireViewContextMenu (alloc : NodeId) (site : Site) :
    Keeps inv (Intake.wireViewContextMenu p alloc site) := by
  refine .bind .get fun w => ?_
  split
  · exact .pure
  · refine .ite (.bind (asks _ _) fun answer => ?_) .pure
    split
    · exact settles _
    · exact .throw
    · exact lasts.wireOverride settles counts _ _ _

end Overriding

section Skipping

variable (skips : Counts part fun t => { t with skipped := t.skipped + 1 })

include skips

theorem skip (event : String) (fault : Fault) : Keeps inv (Intake.skip event fault) :=
  .bind (lasts.countIntake skips) fun _ => lasts.note _

theorem internOrSkip (event : String) (r : Ref) : Keeps inv (Intake.internOrSkip event r) := by
  refine .bind (.attempt (lasts.intern r)) fun outcome => ?_
  cases outcome with
  | ok id => exact .pure
  | error e => exact .ite (.bind (lasts.skip skips _ _) fun _ => .pure) .throw

theorem internRole (event : String) (sig : Signature) (role : Role) (r : Ref) :
    Keeps inv (Intake.internRole event sig role r) := by
  refine .ite .pure (.bind (lasts.internOrSkip skips _ _) fun id? => ?_)
  cases id? with
  | none => exact .pure
  | some id => exact .pure

end Skipping

section Operating

variable {p : Program}
  (queues : ∀ task, Keeps inv (modify fun w => { w with dispatcher := { w.dispatcher with
    pending := w.dispatcher.pending ++ [task]
    stats := { w.dispatcher.stats with deferred := w.dispatcher.stats.deferred + 1 } } }))
  (registered : Counts part fun t => { t with registrations := t.registrations + 1 })

include queues

theorem register (r : Resolver) (task : DispatchTask) : Keeps inv (Dispatch.register r task) :=
  .ite (.bind (lasts.countDispatch _) fun _ => lasts.resolveContextMenu r task) (queues task)

include registered

theorem registerListener (ev : OpEvent) (i : Operands) (op : NodeId) (reg : Registration) :
    Keeps inv (Intake.registerListener p ev i op reg) :=
  .bind .store fun _ => .bind (lasts.register queues _ _) fun _ => lasts.countIntake registered

/-- A fact that outlasts the two steps that are not plain outlasts the creation of operations. -/
theorem createOperation (operates : ∀ r, Keeps inv (Work.onStore (·.createOperation r)))
    (made : Counts part fun t => { t with operations := t.operations + 1 })
    (ev : OpEvent) (i : Operands) (reg? : Option Registration) :
    Keeps inv (Intake.createOperation p ev i reg?) := by
  refine .bind (.within (operates _)) fun op => .bind (lasts.countIntake made) fun _ => ?_
  refine .bind (lasts.note _) fun _ => ?_
  cases reg? with
  | none => exact .pure
  | some reg => exact .bind (lasts.registerListener queues registered _ _ _ _) fun _ => .pure

end Operating

section Recognizing

variable {p : Program} {post fail : Workspace → Prop}
  (events : Counts part fun t => { t with events := t.events + 1 })
  (skips : Counts part fun t => { t with skipped := t.skipped + 1 })
  (ends : ∀ w, inv w → post w) (fails : ∀ w, inv w → fail w)

include events skips ends fails

/-- Up to the creation of its operation, the intake of a recognized call is plain work. -/
theorem recognize {ev : OpEvent}
    (creates : ∀ kind i reg?, OpKind.ofName? ev.kind = some kind → Intake.EntryFor p ev kind reg? →
      Triple inv (Intake.createOperation p ev i reg?) (fun _ => post) fun _ => fail) :
    Triple inv (Intake.recognize p ev) (fun _ => post) fun _ => fail := by
  have plain {β : Type} {step : Work β} (keeps : Keeps inv step) :
      Triple inv step (fun _ => inv) fun _ => fail :=
    keeps.conseq (fun _ h => h) (fun _ _ h => h) fun _ => fails
  have skipped : Triple inv (pure (0 : NodeId) : Work NodeId) (fun _ => post) fun _ => fail :=
    Triple.pure ends
  refine Triple.bind (plain (lasts.countIntake events)) fun _ => ?_
  cases known : OpKind.ofName? ev.kind with
  | none => exact Triple.throw fails
  | some kind =>
    refine Triple.bind (plain (lasts.internRole skips _ _ _ _)) fun receiver? => ?_
    cases receiver? with
    | none => exact skipped
    | some receiver =>
      refine Triple.bind (plain (lasts.internRole skips _ _ _ _)) fun parameter? => ?_
      cases parameter? with
      | none => exact skipped
      | some parameter =>
        refine Triple.bind (plain (lasts.internRole skips _ _ _ _)) fun result? => ?_
        cases result? with
        | none => exact skipped
        | some result =>
          refine Triple.ite (fun listens => ?_) fun other => ?_
          · cases found : p.resolver.table.byMethod? ev.listener with
            | none => exact Triple.bind (plain (lasts.skip skips _ _)) fun _ => skipped
            | some reg => exact creates kind _ (some reg) known (.inr ⟨listens, reg, found, rfl⟩)
          · exact creates kind _ none known (.inl ⟨Bool.not_eq_true _ ▸ other, rfl⟩)

end Recognizing

/-- A part of a tab host is skipped, or looked up by a recognized call. -/
theorem tabHost {p : Program} (events : Counts part fun t => { t with events := t.events + 1 })
    (skips : Counts part fun t => { t with skipped := t.skipped + 1 })
    (calls : ∀ ev, Keeps inv (Intake.recognize p ev)) (host : Ref) (name : String) (target : Ref)
    (site : Site) : Keeps inv (Intake.tabHost p host name target site) := by
  unfold Intake.tabHost
  split
  · exact .bind (lasts.countIntake events) fun _ => .bind (lasts.skip skips _ _) fun _ => .pure
  · exact calls _

end Steady

namespace Lasting

variable (lasts : Lasting inv)

include lasts

theorem countIntake (f : IntakeStats → IntakeStats) : Keeps inv (countIntake f) :=
  lasts.toSteady.countIntake fun _ => rfl

theorem settle (alloc : NodeId) : Keeps inv (Intake.settle alloc) :=
  .modify fun _ holds => lasts.beside holds rfl rfl rfl

theorem ask (p : Program) (subsignature className : String) :
    Keeps inv (Intake.ask p subsignature className) :=
  fun _ holds => lasts.beside holds rfl rfl rfl

theorem skip (event : String) (fault : Fault) : Keeps inv (Intake.skip event fault) :=
  lasts.toSteady.skip (fun _ => rfl) event fault

theorem internOrSkip (event : String) (r : Ref) : Keeps inv (Intake.internOrSkip event r) :=
  lasts.toSteady.internOrSkip (fun _ => rfl) event r

theorem afterFlow (p : Program) (source : Ref) (src : NodeId) (site : Site) :
    Keeps inv (Intake.afterFlow p source src site) := by
  have wired := lasts.toSteady.wireViewContextMenu lasts.settle (lasts.ask p) (fun _ => rfl) src site
  refine .ite (.bind (.attempt wired) fun outcome => ?_) .pure
  cases outcome with
  | ok => exact .pure
  | error e => exact .ite (lasts.skip _ _) .throw

theorem flow (p : Program) (event : String) (source target : Ref) (site : Site) :
    Keeps inv (Intake.flow p event source target site) := by
  refine .bind (lasts.countIntake _) fun _ => .bind (lasts.internOrSkip _ _) fun src? => ?_
  cases src? with
  | none => exact .pure
  | some src =>
    refine .bind (lasts.internOrSkip _ _) fun dst? => ?_
    cases dst? with
    | none => exact .pure
    | some dst =>
      refine .bind (.within (lasts.addEdge _ _ _)) fun added => ?_
      exact .ite (.bind (lasts.countIntake _) fun _ => lasts.afterFlow _ _ _ _)
        (lasts.afterFlow _ _ _ _)

theorem recognize {p : Program} {post fail : Workspace → Prop} (ends : ∀ w, inv w → post w)
    (fails : ∀ w, inv w → fail w) {ev : OpEvent}
    (creates : ∀ kind i reg?, OpKind.ofName? ev.kind = some kind → Intake.EntryFor p ev kind reg? →
      Triple inv (Intake.createOperation p ev i reg?) (fun _ => post) fun _ => fail) :
    Triple inv (Intake.recognize p ev) (fun _ => post) fun _ => fail :=
  lasts.toSteady.recognize (fun _ => rfl) (fun _ => rfl) ends fails creates

theorem tabHost {p : Program} (calls : ∀ ev, Keeps inv (Intake.recognize p ev)) (host : Ref)
    (part : String) (target : Ref) (site : Site) :
    Keeps inv (Intake.tabHost p host part target site) :=
  lasts.toSteady.tabHost (fun _ => rfl) (fun _ => rfl) calls host part target site

end Lasting

end WidgetFlow
