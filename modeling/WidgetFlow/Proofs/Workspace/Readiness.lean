import WidgetFlow.Facts.Replay
import WidgetFlow.Proofs.Listener.Deferred
import WidgetFlow.Proofs.Listener.FirstEntry
import WidgetFlow.Proofs.Solver.Again
import WidgetFlow.Proofs.Solver.Strictness

/-!
# What intake has accepted can be completed and solved

Dispatch and the solver check again what intake has checked before: that a registration belongs to
an operation of a known interface, that the ends of a new edge are plain nodes. These checks never
fail. `Orderly` says what intake establishes and everything later relies on. Plain work keeps it;
the two steps that are not plain, creating an operation and registering it, establish it for what
they add. So a replay leaves a workspace in order, whatever the document says, and from there
completion and a lenient solve run to their ends (`solvable_of_replay`). A solve leaves it in order
too, so that what intake has built can be solved again (`Solve.exists_run_again`).

Registering never fails at all: it comes right after the creation of an operation whose operands and
interface have been checked. So an event that fails has created no operation.
-/

namespace WidgetFlow

open Work

/-! ### Steps that cannot fail -/

/-- The graph is well formed and named, and a fact about it holds. -/
structure Sound (fact : Store → Prop) (s : Store) : Prop where
  wellFormed : s.WellFormed
  named : s.Named
  holds : fact s

section Total

variable {fact : Store → Prop} (lasts : ∀ {s t : Store}, s.Grows t → fact s → fact t)

include lasts

/-- A step that adds flows cannot fail where the fact holds that makes it ready. -/
theorem Feeding.ends {step : Work Unit} {new : List Feed}
    (feeding : ∀ s, Feeding s (fact s) step new) :
    Triple (fun w => Sound fact w.store) step (fun _ w => Sound fact w.store) fun _ _ => False := by
  intro w sound
  have fed : Triple (fun v => w.store.Fed [] v.store) step (fun _ v => Sound fact v.store)
      fun _ _ => False := by
    refine (feeding w.store []).conseq (fun _ start => start) (fun _ v fed => ?_) ?_
    · exact ⟨fed.wellFormed, fed.named, lasts fed.grows sound.holds⟩
    · exact fun _ _ failed => failed sound.holds
  exact fed w (.refl sound.wellFormed sound.named)

/-- A fresh menu is a plain node, so it can be given to a handler. -/
theorem Dispatch.giveMenu_ends {t : Target} (named : t.method ≠ "") (site : Site) :
    Triple (fun w => Sound fact w.store) (Dispatch.giveMenu t site) (fun _ w => Sound fact w.store)
      fun _ _ => False := by
  unfold Dispatch.giveMenu
  split
  case h_2 => exact Triple.pure fun _ sound => sound
  case h_1 i _ =>
    refine Triple.bind (M := fun menu w => Sound (fun s => fact s ∧ s.isOperand menu) w.store) ?_
      fun menu => ?_
    · intro w sound
      have made : w.store.PlainStep (w.store.newAllocation contextMenuClass .contextMenu).2 :=
        .madeUp _ _
      refine ⟨made.wellFormed sound.wellFormed, made.keepsNames sound.named,
        lasts made.grows sound.holds, ?_⟩
      exact Store.isOperand_of_node? (Store.node?_push_nextId _ _) rfl
    · have stays {s u : Store} (grows : s.Grows u) (both : fact s ∧ s.isOperand menu) :
          fact u ∧ u.isOperand menu := ⟨lasts grows both.1, grows.isOperand both.2⟩
      have slot : (Local.param t.method i).isNamed := by simp [Local.isNamed, Local.param, named]
      refine Triple.mono (Feeding.ends stays fun s => (Feeding.edgeToLocal slot).mono And.right) ?_
      exact fun _ _ sound => ⟨sound.wellFormed, sound.named, sound.holds.1⟩

end Total

theorem Store.Joinable.grow {s t : Store} {listener view : NodeId} (grows : s.Grows t)
    (joinable : s.Joinable listener view) : t.Joinable listener view :=
  ⟨fun given => grows.isOperand (joinable.1 given), fun given => grows.isOperand (joinable.2 given)⟩

/-- The wiring of a context-menu registration ends if its operation registers a known interface and
its listener and its view are plain nodes. -/
theorem Dispatch.resolveContextMenu_ends (r : Resolver) (task : DispatchTask) :
    Triple (fun w => Sound (·.Joinable task.listener task.view) w.store ∧
        (r.registrationAt? w.store task.op).isSome)
      (Dispatch.resolveContextMenu r task)
      (fun _ w => Sound (·.Joinable task.listener task.view) w.store) fun _ _ => False := by
  rintro w ⟨sound, known⟩
  have registered := Feeding.registration (P := (· = w.store)) r task.op fun _ same => by rw [same]
  have body : Triple (fun v => v.store = w.store) (Dispatch.resolveContextMenu r task)
      (fun _ v => Sound (·.Joinable task.listener task.view) v.store) fun _ _ => False := by
    refine Triple.bind (registered.conseq (fun _ same => same) (fun _ _ found => found)
      fun _ _ none => by simp [none] at known) fun reg => Triple.assuming fun _ => ?_
    refine Triple.bind (M := fun _ v => Sound (·.Joinable task.listener task.view) v.store)
      ((Feeding.reportUnresolved _ _ (· = w.store) _).mono fun _ _ same => same ▸ sound) fun _ => ?_
    refine Triple.forM (I := fun _ v => Sound (·.Joinable task.listener task.view) v.store) ?_
    intro done t rest split
    have listed : t ∈ r.targets reg task.listenerClass := by simp [split]
    have named : t.method ≠ "" := method_ne_of_mem_targets listed
    exact Triple.bind (Feeding.ends Store.Joinable.grow fun _ => Feeding.connect named _ _ _)
      fun _ => Dispatch.giveMenu_ends Store.Joinable.grow named _
  exact body w rfl

/-- A registration of a known interface with plain ends is accepted. -/
theorem Dispatch.register_ends (r : Resolver) (task : DispatchTask) :
    Triple (fun w => Sound (·.Joinable task.listener task.view) w.store ∧
        (r.registrationAt? w.store task.op).isSome)
      (Dispatch.register r task) (fun _ _ => True) fun _ _ => False := by
  refine Triple.ite (fun menu => ?_) fun later => Triple.modify fun _ _ => trivial
  refine Triple.bind (M := fun _ w => Sound (·.Joinable task.listener task.view) w.store ∧
    (r.registrationAt? w.store task.op).isSome) (Triple.modify fun _ holds => holds) fun _ => ?_
  exact (Dispatch.resolveContextMenu_ends r task).mono fun _ _ _ => trivial

/-! ### A workspace in order -/

/-- Everything that waits can be done: every operation that registers a listener registers a known
interface, the registrations that wait are ready, and no binding waits. -/
structure Orderly (r : Resolver) (w : Workspace) : Prop where
  wellFormed : w.store.WellFormed
  named : w.store.Named
  known : ∀ op o, w.store.operationAt op = some o → o.kind.isListener = true →
    (r.registrationAt? w.store op).isSome
  ready : ∀ task ∈ w.dispatcher.pending, r.Ready w.store task
  idle : w.dispatcher.wires = []

/-- The operations and the registrations that wait are those of `v`. -/
def SameWork (v w : Workspace) : Prop :=
  (∀ op, w.store.operationAt op = v.store.operationAt op) ∧
    w.dispatcher.pending = v.dispatcher.pending

namespace Store

variable {s s' : Store}

theorem serve_plainStep {q : StoreRequest} (plain : ∀ r, q ≠ .createOperation r) :
    PlainStep s (s.serve q) := by
  unfold serve
  split
  case h_1 granted => exact answer_plainStep granted plain
  case h_2 => exact .same

theorem PlainStep.operationAt_eq (step : PlainStep s s') (op : NodeId) :
    s'.operationAt op = s.operationAt op := by
  cases before : s.operationAt op with
  | some o => exact step.grows.operationAt before
  | none =>
    cases after : s'.operationAt op with
    | none => rfl
    | some o => exact (step.operationAt after).symm.trans before

/-- The receiver and the parameter of a new operation are plain nodes, where they are given. -/
theorem Fits.joinable {sig : Signature} {i : Operands} (fits : s.Fits sig i) :
    s.Joinable i.parameter i.receiver := by
  constructor
  · intro given
    exact fits.filled .parameter (mem_layout_of_has (fits.declared .parameter given) (by decide))
  · intro given
    exact fits.filled .receiver (mem_layout_of_has (fits.declared .receiver given) (by decide))

end Store

namespace Resolver

variable {r : Resolver} {s t : Store} {task : DispatchTask}

/-- An operation keeps its table entry while the graph grows. -/
theorem registrationAt?_of_grows {op : NodeId} {reg : Registration}
    (entry : r.registrationAt? s op = some reg) (grows : s.Grows t) :
    r.registrationAt? t op = some reg := by
  obtain ⟨o, there, listed⟩ := Option.bind_eq_some_iff.1 entry
  rw [registrationAt?, grows.operationAt there, Option.bind_some, listed]

/-- A registration stays ready while the graph grows. -/
theorem Ready.grow (grows : s.Grows t) (ready : r.Ready s task) : r.Ready t task where
  deferred := ready.deferred
  registers := by
    obtain ⟨reg, found⟩ := Option.isSome_iff_exists.1 ready.registers
    rw [registrationAt?_of_grows found grows]
    rfl
  joinable := ready.joinable.grow grows

end Resolver

namespace Orderly

variable {r : Resolver} {v w : Workspace}

theorem sound (orderly : Orderly r w) {fact : Store → Prop} (holds : fact w.store) :
    Sound fact w.store := ⟨orderly.wellFormed, orderly.named, holds⟩

theorem of_eq (orderly : Orderly r w) {w' : Workspace} (graph : w'.store = w.store)
    (pending : w'.dispatcher.pending = w.dispatcher.pending)
    (wires : w'.dispatcher.wires = w.dispatcher.wires) : Orderly r w' where
  wellFormed := graph ▸ orderly.wellFormed
  named := graph ▸ orderly.named
  known := graph ▸ orderly.known
  ready := by
    rw [graph, pending]
    exact orderly.ready
  idle := wires.trans orderly.idle

theorem lasting : Lasting (Orderly r) where
  request := by
    intro w q orderly plain
    have step := w.store.serve_plainStep plain
    refine ⟨step.wellFormed orderly.wellFormed, step.keepsNames orderly.named, fun op o there => ?_,
      fun task waits => (orderly.ready task waits).grow step.grows, orderly.idle⟩
    rw [step.operationAt_eq] at there
    rw [Resolver.registrationAt?, step.operationAt_eq]
    exact orderly.known op o there
  beside orderly graph pending wires := orderly.of_eq graph pending wires

theorem lasting_sameWork : Lasting fun w => Orderly r w ∧ SameWork v w where
  request := by
    rintro w q ⟨orderly, operations, pending⟩ plain
    refine ⟨lasting.request orderly plain, fun op => ?_, pending⟩
    rw [(w.store.serve_plainStep plain).operationAt_eq, operations]
  beside := by
    rintro w w' ⟨orderly, operations, pending⟩ graph pending' wires
    exact ⟨orderly.of_eq graph pending' wires, fun op => by rw [graph, operations],
      pending'.trans pending⟩

/-- A registration of a known interface with plain ends waits in order, or has been wired. -/
theorem register (r : Resolver) (task : DispatchTask) :
    Triple (fun w => Orderly r w ∧ w.store.Joinable task.listener task.view ∧
        (r.registrationAt? w.store task.op).isSome)
      (Dispatch.register r task) (fun _ => Orderly r) fun _ _ => True := by
  refine Triple.ite (fun menu => ?_) fun later => ?_
  · refine Triple.bind (M := fun _ => Orderly r)
      (Triple.modify fun w holds => holds.1.of_eq rfl rfl rfl) fun _ => ?_
    exact (lasting.resolveContextMenu r task).relax
  · refine Triple.modify fun w ⟨orderly, joinable, known⟩ => ?_
    refine ⟨orderly.wellFormed, orderly.named, orderly.known, fun queued waits => ?_, orderly.idle⟩
    rcases List.mem_append.1 waits with before | new
    · exact orderly.ready queued before
    · obtain rfl := List.mem_singleton.1 new
      exact ⟨Bool.not_eq_true _ ▸ later, known, joinable⟩

end Orderly

/-! ### Operations and their registrations -/

namespace Intake

variable {p : Program} {ev : OpEvent} {i : Operands} {op : NodeId} {reg : Registration}
  {reg? : Option Registration} {kind : OpKind}

/-- The request for the operation of an event. -/
def operationRequest (ev : OpEvent) (i : Operands) (reg? : Option Registration) :
    OperationRequest where
  kind := ev.kind
  operands := i
  site := ev.site
  artificial := ev.artificial
  listener := (reg?.map (·.interface)).getD ""
  contextMenu := reg?.any (·.contextMenu)

/-- Creates the operation of an event, but does not yet register it. -/
def makeOperation (ev : OpEvent) (i : Operands) (reg? : Option Registration) : Work NodeId := do
  let op ← within (.event ev.kind ev.site) <|
    onStore (·.createOperation (operationRequest ev i reg?))
  countIntake fun t => { t with operations := t.operations + 1 }
  note (.operationCreated op ev.kind ev.site)
  return op

/-- An operation is first made and then registered. -/
theorem createOperation_eq (p : Program) (ev : OpEvent) (i : Operands)
    (reg? : Option Registration) :
    createOperation p ev i reg? = (do
      let op ← makeOperation ev i reg?
      match reg? with
      | some reg => registerListener p ev i op reg
      | none => pure ()
      return op) := by
  cases reg? <;> simp only [createOperation, makeOperation, operationRequest, bind_assoc, pure_bind]

/-- The operation can be registered: it registers a known interface, and its operands are plain. -/
structure Registrable (p : Program) (i : Operands) (op : NodeId) (s : Store) : Prop where
  joinable : s.Joinable i.parameter i.receiver
  known : (p.resolver.registrationAt? s op).isSome

/-- An operation that is granted for an entry of the table can be registered. -/
theorem registrable_of_createOperation {s s' : Store}
    (found : p.resolver.table.byMethod? ev.listener = some reg)
    (granted : s.createOperation (operationRequest ev i (some reg)) = .ok (op, s')) :
    Registrable p i op s' := by
  obtain ⟨kind, -, fits, rfl, rfl⟩ := Store.createOperation_eq_ok_iff.1 granted
  obtain ⟨first, listed⟩ := ListenerTable.exists_byInterface? found
  refine ⟨fits.joinable.grow (.operated fits), ?_⟩
  rw [Resolver.registrationAt?, Store.operationAt_operated, if_pos rfl]
  exact Option.isSome_iff_exists.2 ⟨first, listed⟩

theorem makeOperation_registrable (found : p.resolver.table.byMethod? ev.listener = some reg) :
    Triple (fun w => w.store.WellFormed ∧ w.store.Named) (makeOperation ev i (some reg))
      (fun op w => Sound (Registrable p i op) w.store) fun _ _ => True := by
  refine Triple.bind (M := fun op w => Sound (Registrable p i op) w.store)
    (Triple.within (Triple.onStore ?_ fun _ _ _ _ => trivial)) fun op _ sound => sound
  rintro w op s ⟨wf, named⟩ granted
  have step := Store.createOperation_step granted
  exact ⟨step.wellFormed wf, step.keepsNames named, registrable_of_createOperation found granted⟩

/-- An operation that has just been made can be registered, if it registers a listener. Where it
cannot be made, nothing has been done. -/
theorem makeOperation_orderly (known : OpKind.ofName? ev.kind = some kind)
    (entry : EntryFor p ev kind reg?) (v : Workspace) :
    Triple (fun w => Orderly p.resolver w ∧ w = v) (makeOperation ev i reg?)
      (fun op w => Orderly p.resolver w ∧ (reg?.isSome → Registrable p i op w.store))
      fun _ w => w = v := by
  refine Triple.bind (M := fun op w => Orderly p.resolver w ∧
    (reg?.isSome → Registrable p i op w.store)) (Triple.within (Triple.onStore ?_ ?_)) fun op => ?_
  · rintro w op s ⟨orderly, rfl⟩ granted
    have step := Store.createOperation_step granted
    have registrable (listens : kind.isListener = true) : Registrable p i op s := by
      obtain ⟨other, -⟩ | ⟨-, reg, found, rfl⟩ := entry
      · rw [listens] at other
        cases other
      · exact registrable_of_createOperation found granted
    obtain ⟨kind', known', fits, rfl, rfl⟩ := Store.createOperation_eq_ok_iff.1 granted
    obtain rfl := Option.some.inj (known.symm.trans known')
    refine ⟨⟨step.wellFormed orderly.wellFormed, step.keepsNames orderly.named, ?_,
      fun task waits => (orderly.ready task waits).grow (.operated fits), orderly.idle⟩,
      fun given => ?_⟩
    · intro op o there listens
      by_cases new : op = w.store.nextId
      · subst new
        rw [Store.operationAt_operated, if_pos rfl] at there
        cases there
        exact (registrable listens).known
      · rw [Store.operationAt_operated, if_neg new] at there
        have before := orderly.known op o there listens
        rwa [Resolver.registrationAt?, Store.operationAt_operated, if_neg new]
    · obtain ⟨-, rfl⟩ | ⟨listens, -⟩ := entry
      · cases given
      · exact registrable listens
  · rintro w e ⟨-, rfl⟩ -
    rfl
  · rintro w ⟨orderly, registrable⟩
    exact ⟨orderly.of_eq rfl rfl rfl, registrable⟩

/-- Such an operation is registered. -/
theorem registerListener_ends (ev : OpEvent) (reg : Registration) :
    Triple (fun w => Sound (Registrable p i op) w.store) (registerListener p ev i op reg)
      (fun _ _ => True) fun _ _ => False := by
  refine Triple.bind (M := fun _ w => Sound (Registrable p i op) w.store)
    (Triple.store.mono fun _ _ holds => holds.2) fun s => ?_
  refine Triple.bind ((Dispatch.register_ends p.resolver _).conseq (fun w sound => ?_)
    (fun _ _ holds => holds) fun _ _ never => never) fun _ => Triple.modify fun _ holds => holds
  exact ⟨⟨sound.wellFormed, sound.named, sound.holds.joinable⟩, sound.holds.known⟩

theorem registerListener_orderly (ev : OpEvent) (reg : Registration) :
    Triple (fun w => Orderly p.resolver w ∧ Registrable p i op w.store)
      (registerListener p ev i op reg) (fun _ => Orderly p.resolver) fun _ _ => True := by
  refine Triple.bind (M := fun _ w => Orderly p.resolver w ∧ Registrable p i op w.store)
    (Triple.store.mono fun _ _ holds => holds.2) fun s => ?_
  refine Triple.bind ((Orderly.register p.resolver _).conseq (fun w holds => ?_)
    (fun _ _ holds => holds) fun _ _ holds => holds) fun _ => ?_
  · exact ⟨holds.1, holds.2.joinable, holds.2.known⟩
  · exact Triple.modify fun w orderly => orderly.of_eq rfl rfl rfl

/-- The creation of an operation fails only before the operation is there. -/
theorem createOperation_orderly (known : OpKind.ofName? ev.kind = some kind)
    (entry : EntryFor p ev kind reg?) (v : Workspace) :
    Triple (fun w => Orderly p.resolver w ∧ SameWork v w) (createOperation p ev i reg?)
      (fun _ => Orderly p.resolver) fun _ w => Orderly p.resolver w ∧ SameWork v w := by
  rintro w ⟨orderly, same⟩
  have whole : Triple (fun u => Orderly p.resolver u ∧ u = w) (createOperation p ev i reg?)
      (fun _ => Orderly p.resolver) fun _ u => u = w := by
    rw [createOperation_eq]
    refine Triple.bind (makeOperation_orderly known entry w) fun op => ?_
    cases reg? with
    | none => exact Triple.pure fun _ made => made.1
    | some reg =>
      refine Triple.bind ?_ fun _ => Triple.pure fun _ holds => holds
      rintro u ⟨orderly, registrable⟩
      obtain ⟨⟨⟩, u', registered, -⟩ :=
        (registerListener_ends ev reg).exists_ok (orderly.sound (registrable rfl))
      rw [registered]
      exact (registerListener_orderly ev reg).of_ok ⟨orderly, registrable rfl⟩ registered
  exact whole.conseq (fun _ holds => holds) (fun _ _ holds => holds)
    (fun _ _ unchanged => unchanged ▸ ⟨orderly, same⟩) w ⟨orderly, rfl⟩

/-- A recognized call leaves the workspace in order; if it fails, it has created no operation. -/
theorem recognize_orderly (p : Program) (ev : OpEvent) (v : Workspace) :
    Triple (fun w => Orderly p.resolver w ∧ SameWork v w) (recognize p ev)
      (fun _ => Orderly p.resolver) fun _ w => Orderly p.resolver w ∧ SameWork v w :=
  Orderly.lasting_sameWork.recognize (fun _ holds => holds.1) (fun _ holds => holds)
    fun _ _ _ known entry => createOperation_orderly known entry v

end Intake

theorem Orderly.recognize (p : Program) (call : OpEvent) :
    Keeps (Orderly p.resolver) (Intake.recognize p call) := fun w orderly =>
  (Intake.recognize_orderly p call w).conseq (fun _ holds => holds)
    (fun _ _ holds => holds) (fun _ _ holds => holds.1) w ⟨orderly, fun _ => rfl, rfl⟩

/-! ### From a replay to a solution -/

/-- An event keeps what lasts, if recognized calls keep it. -/
theorem Lasting.replayEvent {inv : Workspace → Prop} (lasts : Lasting inv) {p : Program}
    (recognized : ∀ call, Keeps inv (Intake.recognize p call)) (ev : FlowEvent) :
    Keeps inv (Facts.replayEvent p ev) := by
  unfold Facts.replayEvent
  split
  · exact lasts.flow p _ _ _ _
  · exact lasts.flow p _ _ _ _
  · exact lasts.flow p _ _ _ _
  · split
    · exact lasts.note _
    · exact .bind (recognized _) fun _ => .pure
  · exact .bind (lasts.tabHost recognized _ _ _ _) fun _ => .pure
  · exact lasts.note _

namespace Facts

theorem replayEvent_orderly (p : Program) (ev : FlowEvent) :
    Keeps (Orderly p.resolver) (replayEvent p ev) :=
  Orderly.lasting.replayEvent (Orderly.recognize p) ev

theorem replayEvents_orderly (p : Program) (events : List FlowEvent) (index : Nat) :
    Keeps (Orderly p.resolver) (replayEvents p index events) := by
  induction events generalizing index with
  | nil => exact .pure
  | cons ev rest ih => exact .bind (.within (replayEvent_orderly p ev)) fun _ => ih (index + 1)

/-- A binding keeps what its requests and notes keep. -/
theorem keeps_replayBinding {inv : Workspace → Prop} {b : BindingFact}
    (binds : Keeps inv (Intake.bindViews b.window b.root))
    (adds : ∀ r, Keeps inv (Intake.windowRoot b.window r)) (notes : ∀ n, Keeps inv (note n)) :
    Keeps inv (replayBinding b) := by
  refine .bind (.attempt binds) fun outcome => ?_
  cases outcome with
  | error e => exact notes _
  | ok =>
    refine .forM fun producer _ => ?_
    refine .bind (.attempt (adds producer)) fun outcome => ?_
    cases outcome with
    | error e => exact notes _
    | ok => exact .pure

theorem replayBinding_orderly (r : Resolver) (b : BindingFact) :
    Keeps (Orderly r) (replayBinding b) :=
  keeps_replayBinding (Orderly.lasting.bindViews _ _) (fun _ => Orderly.lasting.windowRoot _ _)
    Orderly.lasting.note

/-- A replay leaves the workspace in order, wherever it ends. -/
theorem replay_orderly (p : Program) (canceled : Bool) (f : Facts) :
    Keeps (Orderly p.resolver) (replay p canceled f) := by
  have body : Keeps (Orderly p.resolver) (do
      replayEvents p 0 f.events
      f.bindings.forM replayBinding
      note (.factsReplayed f.events.length f.bindings.length)) :=
    .bind (replayEvents_orderly p f.events 0) fun _ =>
      .bind (.forM fun b _ => replayBinding_orderly p.resolver b) fun _ => Orderly.lasting.note _
  exact .ite (.bind (.ite .throw .pure) fun _ => body) body

end Facts

theorem Orderly.takeQueues {r : Resolver} : Keeps (Orderly r) Dispatch.takeQueues := fun _ orderly =>
  ⟨orderly.wellFormed, orderly.named, orderly.known, by simp, rfl⟩

/-- A flush leaves the workspace in order. -/
theorem Orderly.flush (r : Resolver) (canceled : Bool) :
    Keeps (Orderly r) (Dispatch.flush r canceled) :=
  lasting.flush Orderly.takeQueues r canceled

/-- An analysis begins in order. -/
theorem Orderly.fresh (r : Resolver) (journal : List Notice) : Orderly r { journal } where
  wellFormed := Store.wellFormed_empty
  named := Store.named_empty
  known op o there := by
    have pos := Store.pos_of_isSome (Store.isSome_of_operationAt there)
    have bound := Store.le_size_of_isSome (Store.isSome_of_operationAt there)
    exact absurd bound (Int.not_le.2 pos)
  ready := by simp
  idle := rfl

/-- Building keeps a workspace in order. -/
theorem Activity.keeps_orderly {p : Program} {a : Activity} (builds : a.builds) :
    Keeps (Orderly p.resolver) (a.work p) := by
  cases a with
  | assign | bindParameter | bindReturn => exact Orderly.lasting.flow p _ _ _ _
  | recognize ev => exact .bind (Orderly.recognize p ev) fun _ => .pure
  | tabHost => exact .bind (Orderly.lasting.tabHost (Orderly.recognize p) _ _ _ _) fun _ => .pure
  | bindViews => exact Orderly.lasting.bindViews _ _
  | windowRoot => exact Orderly.lasting.windowRoot _ _
  | complete canceled => exact Orderly.lasting.complete Orderly.takeQueues p canceled
  | _ => cases builds

/-- So does everything that is built on the way. -/
theorem Orderly.run {p : Program} {w : Workspace} {acts : List Activity}
    (orderly : Orderly p.resolver w) (builds : ∀ a ∈ acts, a.builds) :
    Orderly p.resolver (w.run p acts) := by
  induction acts generalizing w with
  | nil => exact orderly
  | cons a acts ih =>
    have keeps := Activity.keeps_orderly (p := p) (builds a List.mem_cons_self)
    exact ih (Workspace.perform_of_triple keeps orderly) fun a' later => builds a' (List.mem_cons_of_mem _ later)

/-- A workspace in order can be completed, and is in order then. -/
theorem Orderly.exists_complete {p : Program} {w : Workspace} (orderly : Orderly p.resolver w) :
    ∃ w', Intake.complete p false w = .ok () w' ∧ Orderly p.resolver w' := by
  obtain ⟨v, flushed⟩ :=
    flush_succeeds rfl orderly.wellFormed orderly.named orderly.idle orderly.ready
  have settled := (Orderly.flush p.resolver false).of_ok orderly flushed
  have staged : within .completion (Dispatch.flush p.resolver false) w = .ok () v := by
    rw [within, flushed]
  exact ⟨_, bind_of_ok staged, settled.of_eq rfl rfl rfl⟩

namespace Solve

variable {r : Resolver} {w : Workspace} {G : Store} {f : Findings} {t : Classification}

theorem operation?_of_isObject {n : Node} (object : n.isObject = true) : n.operation? = none := by
  unfold Node.operation?
  split
  case h_1 o body => simp [Node.isObject, Node.kind, body, NodeKind.isObject] at object
  case h_2 => rfl

theorem isObject_of_isWindow {n : Node} (window : n.isWindow = true) : n.isObject = true := by
  rw [Node.isObject, eq_of_beq window]
  rfl

/-- What a solve finds can be wired: listeners are objects, and views are allocations. -/
theorem wiresReady_of_found (wf : G.WellFormed)
    (known : ∀ op o, G.operationAt op = some o → o.kind.isListener = true →
      (r.registrationAt? G op).isSome)
    (found : ∀ m op x, f.Holds m op x ↔ foundPairs G t r m op x) : WiresReady r G f := by
  intro k demanded wirable
  obtain ⟨⟨o, there, listens, -⟩, -⟩ := isWirable_iff.1 wirable
  refine ⟨known k.op o there listens, fun _ => ?_, fun given => ?_⟩
  · obtain ⟨_, _, _, ⟨n, at_listener, window, _⟩ | ⟨n, ⟨at_listener, object, _⟩, _⟩⟩ :=
      (found_solutionListeners wf).1 ((found _ _ _).1 demanded.1)
    · have object := isObject_of_isWindow window
      exact Store.isOperand_of_node? at_listener (operation?_of_isObject object)
    · exact Store.isOperand_of_node? at_listener (operation?_of_isObject object)
  · have exact : ∀ m k i, i ∈ (f.freeze.get m).ids k ↔ foundPairs G t r m k i := fun m k i =>
      Findings.mem_ids_freeze.trans (found m k i)
    have received := demanded.2.resolve_right fun none => given none.1
    have views := (HasRolePairs.receiver wf exact).solution wf (by decide) k.op k.view
    obtain ⟨n, _, meets, plain, -⟩ := views.1 (Findings.mem_ids_freeze.2 received)
    exact Store.isOperand_of_node? meets.known (by simpa [Node.isOperation] using plain)

/-- A workspace in order with empty queues can be solved, if the rules are lenient. -/
theorem exists_run_lenient (orderly : Orderly r w) (pending : w.dispatcher.pending = [])
    (t : Classification) : ∃ sol w', run ⟨t, false⟩ r false w = .ok sol w' := by
  have wf := orderly.wellFormed
  have wf' := wf.prewired
  have named : w.store.prewired.Named :=
    Store.run_induction orderly.named (fun _ _ ok step => step.keepsNames ok) _
  obtain ⟨w₁, prewired, graph, dispatcher⟩ := pass_prewire_of_wellFormed wf
  obtain ⟨st, w₂, explored, -⟩ := explore_lenient (t := t) (r := r) wf' graph
  obtain ⟨knows, queued⟩ :=
    (wiring_explore wf' ⟨pending, orderly.idle⟩).of_ok ⟨graph, dispatcher⟩ explored
  have known : ∀ op o, w.store.prewired.operationAt op = some o → o.kind.isListener = true →
      (r.registrationAt? w.store.prewired op).isSome := by
    simp only [Resolver.registrationAt?, Store.operationAt, node?_prewired wf]
    exact orderly.known
  have ready := wiresReady_of_found wf' known knows.holds
  have ends : Triple (Queued w.store.prewired w.dispatcher.memo st.findings)
      (finalize r st.findings) (fun _ _ => True) fun _ _ => False :=
    (wired_finalize wf' named r (exists_listener wf' knows.holds)).conseq
      (fun _ start => start) (fun _ _ _ => trivial) fun _ _ failed => failed ready
  obtain ⟨⟨⟩, v, finalized, -⟩ := ends.exists_ok (Queued.ignoresJournal _ _ queued)
  obtain ⟨journal, finalized⟩ := pass_of_ok finalized
  obtain ⟨sol, w', reported, -⟩ :=
    (report_ends (fun _ _ (holds : True) => holds) st).exists_ok trivial
  refine ⟨sol, w', ?_⟩
  have active : checkCanceled false w = .ok () w := rfl
  rw [run_eq, bind_of_ok active, bind_of_ok prewired, bind_of_ok explored, bind_of_ok finalized]
  exact reported

/-- Flows that a solve adds leave a workspace in order. -/
theorem orderly_of_fed {fs : List Feed} {w' : Workspace} (orderly : Orderly r w)
    (fed : w.store.prewired.Fed fs w'.store)
    (idle : w'.dispatcher.pending = [] ∧ w'.dispatcher.wires = []) : Orderly r w' where
  wellFormed := fed.wellFormed
  named := fed.named
  known op o there listens := by
    have same : w'.store.operationAt op = w.store.operationAt op := by
      rw [fed.operationAt_eq orderly.wellFormed.prewired, Store.operationAt,
        node?_prewired orderly.wellFormed, Store.operationAt]
    rw [same] at there
    rw [Resolver.registrationAt?, same]
    exact orderly.known op o there listens
  ready task waits := by
    rw [idle.1] at waits
    cases waits
  idle := idle.2

/-- After intake has built a graph and it has been completed and solved, lenient rules with the same
table can solve it again: no check fails for the flows that the first solve has added. Every pair of
the first solution is found again. -/
theorem exists_run_again {p : Program} {acts : List Activity} {w w' : Workspace} {rules : Rules}
    {canceled canceled' : Bool} {sol : Solution} (building : ∀ a ∈ acts, a.builds)
    (completed : Intake.complete p canceled (Workspace.run p {} acts) = .ok () w)
    (solved : run rules p.resolver canceled' w = .ok sol w') :
    ∃ sol' w'', run ⟨rules.table, false⟩ p.resolver false w' = .ok sol' w'' ∧
      ∀ m k i, i ∈ (sol.get m).ids k → i ∈ (sol'.get m).ids k := by
  obtain ⟨qs, built⟩ := built_of_completed completed
  obtain ⟨_, _, _, _, -, -, -, wired, settled⟩ := run_settles built (complete_idle completed) solved
  have start : Orderly p.resolver (Workspace.run p {} acts) :=
    (Orderly.fresh p.resolver []).run building
  have orderly := (Orderly.lasting.complete Orderly.takeQueues p canceled).of_ok start completed
  have orderly' := orderly_of_fed orderly wired.fed settled.idle
  obtain ⟨sol', w'', again⟩ := exists_run_lenient orderly' settled.idle.1 rules.table
  exact ⟨sol', w'', again, fun m k i there =>
    mem_ids_again orderly.wellFormed wired.fed solved again rfl there⟩

end Solve

namespace Facts

/-- A document that has been replayed can be completed and then solved by lenient rules, whatever
the document and the tables say: no check of dispatch or of the solver fails. During the replay, an
operation that has been made is always registered, so that a recognized call that fails has created
no operation. -/
theorem solvable_of_replay (p : Program) (f : Facts) (journal : List Notice) :
    (∀ canceled w, f.replay p canceled { journal } = .ok () w →
      ∃ w₁, Intake.complete p false w = .ok () w₁ ∧
        ∀ t, ∃ sol w₂, Solve.run ⟨t, false⟩ p.resolver false w₁ = .ok sol w₂) ∧
    ∀ events v, replayEvents p 0 events { journal } = .ok () v →
      (∀ call e v', Intake.recognize p call v = .error e v' → SameWork v v') ∧
      ∀ u call i reg op u', Served v.store u →
        p.resolver.table.byMethod? call.listener = some reg →
        Intake.makeOperation call i (some reg) u = .ok op u' →
        ∃ u'', Intake.registerListener p call i op reg u' = .ok () u'' := by
  have fresh := Orderly.fresh p.resolver journal
  refine ⟨fun canceled w replayed => ?_, fun events v replayed => ?_⟩
  · have orderly := (replay_orderly p canceled f).of_ok fresh replayed
    obtain ⟨w₁, completed, orderly₁⟩ := orderly.exists_complete
    exact ⟨w₁, completed, Solve.exists_run_lenient orderly₁ (Solve.complete_idle completed).1⟩
  · have orderly := (replayEvents_orderly p events 0).of_ok fresh replayed
    constructor
    · intro call e v' failed
      have outcome := Intake.recognize_orderly p call v v ⟨orderly, fun _ => rfl, rfl⟩
      rw [failed] at outcome
      exact outcome.2
    · rintro u call i reg op u' ⟨qs, graph⟩ found made
      have wf : u.store.WellFormed :=
        graph ▸ Store.run_induction orderly.wellFormed (fun _ _ ok step => step.wellFormed ok) qs
      have named : u.store.Named :=
        graph ▸ Store.run_induction orderly.named (fun _ _ ok step => step.keepsNames ok) qs
      have sound := (Intake.makeOperation_registrable found).of_ok ⟨wf, named⟩ made
      obtain ⟨⟨⟩, u'', registered, -⟩ := (Intake.registerListener_ends call reg).exists_ok sound
      exact ⟨u'', registered⟩

/-- An entry for context menus. -/
def menuEntry : Registration where
  method := "m"
  interface := "J"
  contextMenu := true
  handlers := [{ method := "c", view := some 1, menu := some 0 }]

/-- There are two ways to register a listener, an ordinary one and one for context menus. -/
def menuProgram : Program where
  resolver.hierarchy.classes :=
    [{ name := "I", isInterface := true, methods := ["h"] },
     { name := "C", interfaces := ["I"], methods := ["h"] },
     { name := "J", isInterface := true, methods := ["c"] },
     { name := "D", interfaces := ["J"], methods := ["c"] }]
  resolver.table.registrations :=
    [{ method := "s", interface := "I", handlers := [{ method := "h", view := some 0 }] },
     menuEntry]

/-- The tables of `menuProgram`, and a view class that fills its own context menu. -/
def viewProgram : Program where
  resolver.hierarchy.classes :=
    { name := "V", methods := [viewContextMenu] } :: menuProgram.resolver.hierarchy.classes
  resolver.table := menuProgram.resolver.table

def menuCall : OpEvent where
  kind := "set-listener"
  receiver := .ofSlot ⟨"n", "v"⟩
  parameter := .ofSlot ⟨"n", "l"⟩
  listener := "m"
  listenerClass := "D"

/-- A view and a listener are made, and the listener is registered in both ways. -/
def menuFacts : Facts where
  events :=
    [{ kind := "assign", target := .ofSlot ⟨"n", "v"⟩, source := .ofAlloc ⟨"new V", "V", .view⟩ },
     { kind := "assign", target := .ofSlot ⟨"n", "l"⟩
       source := .ofAlloc ⟨"new C", "C", .listener⟩ },
     { kind := "op", op := some { menuCall with listener := "s" } },
     { kind := "op", op := some menuCall }]
  bindings :=
    [{ window := .ofWindow ⟨.activity, "A", ""⟩, root := .ofSlot ⟨"n", "r"⟩
       producers := [.ofSlot ⟨"n", "v"⟩] }]

theorem menu_replayed : ∃ w, menuFacts.replay menuProgram false {} = .ok () w ∧
    w.dispatcher.pending.length = 1 := by
  have ran : endsWith (menuFacts.replay menuProgram false {})
      (fun _ w => w.dispatcher.pending.length == 1) = true := by decide +kernel
  obtain ⟨⟨⟩, w, replayed, pending⟩ := exists_of_endsWith ran
  exact ⟨w, replayed, eq_of_beq pending⟩

/-- A registration that supplies a result fails, because it can have none; one without is made. -/
theorem menu_recognized : ∃ v e v' u, replayEvents menuProgram 0 menuFacts.events {} = .ok () v ∧
    Intake.recognize menuProgram { menuCall with result := .ofSlot ⟨"n", "x"⟩ } v = .error e v' ∧
    Intake.makeOperation menuCall ⟨2, 4, 0⟩ (some menuEntry) v = .ok 11 u := by
  have ran : endsWith (replayEvents menuProgram 0 menuFacts.events {}) (fun _ v =>
      !endsWith (Intake.recognize menuProgram { menuCall with result := .ofSlot ⟨"n", "x"⟩ } v)
          (fun _ _ => true) &&
        endsWith (Intake.makeOperation menuCall ⟨2, 4, 0⟩ (some menuEntry) v)
          (fun op _ => op == 11)) = true := by decide +kernel
  obtain ⟨⟨⟩, v, replayed, ran⟩ := exists_of_endsWith ran
  obtain ⟨refused, made⟩ := Bool.and_eq_true_iff.1 ran
  obtain ⟨e, v', failed⟩ := exists_error_of_endsWith (by simpa using refused)
  obtain ⟨op, u, granted, number⟩ := exists_of_endsWith made
  obtain rfl := eq_of_beq number
  exact ⟨v, e, v', u, replayed, failed, granted⟩

theorem solvable_of_replay_menu :
    (∃ w w₁ sol w₂, menuFacts.replay menuProgram false {} = .ok () w ∧
      w.dispatcher.pending.length = 1 ∧ Intake.complete menuProgram false w = .ok () w₁ ∧
      Solve.run ⟨{}, false⟩ menuProgram.resolver false w₁ = .ok sol w₂) ∧
    ∃ v e v' u u', replayEvents menuProgram 0 menuFacts.events {} = .ok () v ∧
      Intake.recognize menuProgram { menuCall with result := .ofSlot ⟨"n", "x"⟩ } v = .error e v' ∧
      SameWork v v' ∧
      Intake.makeOperation menuCall ⟨2, 4, 0⟩ (some menuEntry) v = .ok 11 u ∧
      Intake.registerListener menuProgram menuCall ⟨2, 4, 0⟩ 11 menuEntry u = .ok () u' := by
  obtain ⟨solvable, registers⟩ := solvable_of_replay menuProgram menuFacts []
  obtain ⟨w, replayed, waits⟩ := menu_replayed
  obtain ⟨w₁, completed, solved⟩ := solvable false w replayed
  obtain ⟨sol, w₂, ran⟩ := solved {}
  obtain ⟨v, e, v', u, replayed', failed, made⟩ := menu_recognized
  obtain ⟨unchanged, registered⟩ := registers menuFacts.events v replayed'
  obtain ⟨u', done⟩ := registered v menuCall _ menuEntry _ _ ⟨[], rfl⟩ (by decide) made
  exact ⟨⟨w, w₁, sol, w₂, replayed, waits, completed, ran⟩, v, e, v', u, u', replayed', failed,
    unchanged _ _ _ failed, made, done⟩

end Facts

end WidgetFlow
