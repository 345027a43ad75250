import Mathlib
import WidgetFlow.Proofs.Listener.Feeds

/-!
# Deferred registrations in another order

A registration that waited is wired by the objects that flow into its listener value when its turn
comes, and by the class hierarchy if there are none. Wiring it adds flows into handlers, and through
these an object may reach the listener value of a registration that is still waiting. So the order of
the queue may show in the graph (`not_forall_flush_perm`).

It shows only there. More flows bring more objects (`found_subset`), so what a registration finds at
its turn lies between what it finds on the graph before the flush and what it finds on that graph with
all flows that the queue is owed. If these two come to the same for every registration, a flush adds
what is owed on the graph before it, in whatever order (`flush_perm`).
-/

namespace WidgetFlow

open Work

/-! ### What a registration is owed -/

namespace DispatchTask

/-- The interface that the listener has to implement. -/
def interface (task : DispatchTask) (reg : Registration) : String :=
  if task.listenerClass = "" then reg.interface else task.listenerClass

/-- The declared type of the listener. -/
def bound (task : DispatchTask) (reg : Registration) : String :=
  if task.parameterType = "" then task.interface reg else task.parameterType

end DispatchTask

namespace Resolver

/-- The classes of the objects of a graph that may be the listener. -/
def found (r : Resolver) (s : Store) (task : DispatchTask) (reg : Registration) : List String :=
  if task.listener = 0 then []
  else
    let flowing := Dispatch.objectClasses s (s.reaching task.listener).ids fun c =>
      r.implements c (task.interface reg) && r.implements c (task.bound reg)
    let own := Dispatch.objectClasses s [task.listener] fun c => r.implements c (task.interface reg)
    (distinct (flowing ++ own)).mergeSort fun a b => decide (a ≤ b)

/-- The classes that a listener is taken to have: those that were found, or every concrete class that
fits. -/
def candidates (r : Resolver) (task : DispatchTask) (reg : Registration) (found : List String) :
    List String :=
  if found = [] then
    (r.hierarchy.concreteSubtypes (task.bound reg)).filter (r.implements · (task.interface reg))
  else found

/-- The flows that a registration is owed on a graph. -/
def taskFeeds (r : Resolver) (s : Store) (task : DispatchTask) : List Feed :=
  match r.registrationAt? s task.op with
  | some reg => (r.candidates task reg (r.found s task reg)).flatMap
      (r.classFeeds reg task.listener task.view task.site)
  | none => []

/-- A task that can be done: its operation registers a known interface, and its listener and its view
are plain nodes. -/
structure Ready (r : Resolver) (s : Store) (task : DispatchTask) : Prop where
  deferred : task.contextMenu = false
  registers : (r.registrationAt? s task.op).isSome
  joinable : s.Joinable task.listener task.view

instance (r : Resolver) (s : Store) (task : DispatchTask) : Decidable (r.Ready s task) :=
  decidable_of_iff (task.contextMenu = false ∧ (r.registrationAt? s task.op).isSome ∧
      (task.listener ≠ 0 → s.isOperand task.listener) ∧ (task.view ≠ 0 → s.isOperand task.view))
    ⟨fun ⟨deferred, registers, joinable⟩ => ⟨deferred, registers, joinable⟩,
      fun ready => ⟨ready.deferred, ready.registers, ready.joinable⟩⟩

end Resolver

section Step

variable {s : Store}

theorem Triple.listenerClasses (r : Resolver) (task : DispatchTask) (reg : Registration) (s : Store)
    (fail : Fault → Workspace → Prop) :
    Triple (fun w => w.store = s)
      (Dispatch.listenerClasses r task.listener (task.interface reg) (task.bound reg))
      (fun found w => found = r.found s task reg ∧ w.store = s) fail := by
  unfold Dispatch.listenerClasses Resolver.found
  refine Triple.ite (fun absent => ?_) fun given => ?_
  · rw [if_pos absent]
    exact Triple.pure fun _ same => ⟨rfl, same⟩
  · rw [if_neg given]
    rintro w rfl
    exact ⟨rfl, rfl⟩

/-- The classes of a listener are wired one by one; that there are none is reported. -/
theorem Feeding.wireClasses (r : Resolver) (task : DispatchTask) (reg : Registration)
    (classes : List String) :
    Feeding s (s.Joinable task.listener task.view)
      (if classes = [] then
        Dispatch.reportUnresolved (task.interface reg) ["no implementing class"]
      else do
        classes.forM (Dispatch.wireClass r reg task.listener task.view task.site)
        countDispatch fun t => { t with resolved := t.resolved + 1 })
      (classes.flatMap (r.classFeeds reg task.listener task.view task.site)) := by
  refine Accrues.ite (fun none => ?_) fun _ => ?_
  · rw [none]
    exact Feeding.nothing (Feeding.reportUnresolved _ _)
  · have each := Accrues.forM fun c (_ : c ∈ classes) =>
      Feeding.wireClass (s := s) r reg task.listener task.view task.site c
    have counted := each.andThen
      (Feeding.nothing (.countDispatch fun t => { t with resolved := t.resolved + 1 }))
    rwa [List.append_nil] at counted

/-- A registration adds what it is owed on the graph that it meets. -/
theorem fed_resolveDeferred (ok : s.WellFormed) (named : s.Named) (r : Resolver)
    (task : DispatchTask) :
    Triple (fun w => w.store = s) (Dispatch.resolveDeferred r task)
      (fun _ w => s.Fed (r.taskFeeds s task) w.store) fun _ _ => ¬ r.Ready s task := by
  have registered := Feeding.registration (P := (· = s)) r task.op fun t same => by rw [same]
  refine Triple.bind (registered.conseq (fun _ same => same) (fun _ _ h => h)
    fun _ _ none ready => by simpa [none] using ready.registers) fun reg => ?_
  refine Triple.assuming fun entry => ?_
  refine Triple.bind (Triple.listenerClasses r task reg s _) fun found => ?_
  refine Triple.assuming fun isFound => ?_
  subst isFound
  have owed : r.taskFeeds s task = (r.candidates task reg (r.found s task reg)).flatMap
      (r.classFeeds reg task.listener task.view task.site) := by
    simp only [Resolver.taskFeeds, entry]
  rw [owed]
  have step : Feeding s (r.Ready s task) _ _ :=
    (Feeding.wireClasses r task reg (r.candidates task reg (r.found s task reg))).mono
      fun ready => ready.joinable
  rintro w rfl
  exact step [] w (.refl ok named)

end Step

/-! ### More flows bring more objects -/

namespace Store

variable {s t u : Store} {fs gs : List Feed} {e : Edge} {c : String} {x y : NodeId}

/-- An edge of the smaller graph that ends at an old node is an edge of the larger graph. -/
theorem Fed.mem_edges_of_subset (small : Fed s fs t) (big : Fed s gs u) (sub : fs ⊆ gs)
    (there : e ∈ t.edges) (known : (s.node? e.dst).isSome) : e ∈ u.edges := by
  rw [big.edges]
  rcases (small.edges e).1 there with old | ⟨f, new, src, slot, site⟩
  · exact .inl old
  · -- The slot had its node before anything was fed, so it has the same node in both graphs.
    obtain ⟨n, before⟩ := Option.isSome_iff_exists.1 known
    obtain rfl := Option.some.inj ((small.grows.node? before).symm.trans slot)
    exact .inr ⟨f, sub new, src, big.grows.node? before, site⟩

/-- Old nodes are fed to slots, so every edge starts at an old node. -/
theorem Fed.isSome_src (ok : s.WellFormed) (fed : Fed s fs t)
    (srcs : ∀ f ∈ fs, s.isOperand f.src) (there : e ∈ t.edges) : (s.node? e.src).isSome := by
  rcases (fed.edges e).1 there with old | ⟨f, new, src, -⟩
  · exact (ok.hasEnds old).1
  · rw [src]
    exact isSome_of_isOperand (srcs f new)

/-- What flows into an old node is old, and still flows there when more is fed. -/
theorem Fed.linked_of_subset (ok : s.WellFormed) (small : Fed s fs t) (big : Fed s gs u)
    (sub : fs ⊆ gs) (srcs : ∀ f ∈ fs, s.isOperand f.src) (known : (s.node? x).isSome)
    (linked : Linked t.sources x y) : Linked u.sources x y ∧ (s.node? y).isSome := by
  have near {a b : NodeId} (known : (s.node? a).isSome) (near : b ∈ t.sources a) :
      b ∈ u.sources a ∧ (s.node? b).isSome := by
    obtain ⟨e, there, rfl, rfl⟩ := small.wellFormed.mem_sources_iff.1 near
    have later := small.mem_edges_of_subset big sub there known
    exact ⟨big.wellFormed.mem_sources_iff.2 ⟨e, later, rfl, rfl⟩, small.isSome_src ok srcs there⟩
  induction linked with
  | step last => exact ⟨.step (near known last).1, (near known last).2⟩
  | trans _ last ih => exact ⟨.trans ih.1 (near ih.2 last).1, (near ih.2 last).2⟩

/-- An object of the class stands at the number. -/
def HasObject (s : Store) (id : NodeId) (c : String) : Prop :=
  ∃ n, s.node? id = some n ∧ n.isObject = true ∧ n.className = c

theorem Fed.hasObject_iff (small : Fed s fs t) (big : Fed s gs u) (known : (s.node? x).isSome) :
    t.HasObject x c ↔ u.HasObject x c := by
  obtain ⟨n, before⟩ := Option.isSome_iff_exists.1 known
  simp [HasObject, small.grows.node? before, big.grows.node? before]

theorem mem_objectClasses {ids : List NodeId} {test : String → Bool} :
    c ∈ Dispatch.objectClasses s ids test ↔ test c = true ∧ ∃ x ∈ ids, s.HasObject x c := by
  simp only [Dispatch.objectClasses, List.mem_filterMap, Option.bind_eq_some_iff, HasObject]
  constructor
  · rintro ⟨x, there, n, at_x, passed⟩
    split at passed
    case isTrue object =>
      obtain rfl := Option.some.inj passed
      rw [Bool.and_eq_true] at object
      exact ⟨object.2, x, there, n, at_x, object.1, rfl⟩
    case isFalse => cases passed
  · rintro ⟨passes, x, there, n, at_x, object, rfl⟩
    exact ⟨x, there, n, at_x, by simp [object, passes]⟩

end Store

namespace Resolver

variable {r : Resolver} {s t u : Store} {task : DispatchTask} {reg : Registration} {c : String}
  {fs gs : List Feed}

theorem mem_found (ok : s.WellFormed) : c ∈ r.found s task reg ↔ task.listener ≠ 0 ∧
    r.implements c (task.interface reg) = true ∧
      ((r.implements c (task.bound reg) = true ∧
          ∃ x, Linked s.sources task.listener x ∧ s.HasObject x c) ∨
        s.HasObject task.listener c) := by
  unfold found
  split
  case isTrue absent => simp [absent]
  case isFalse given =>
    simp only [List.mem_mergeSort, mem_distinct, List.mem_append, Store.mem_objectClasses,
      ok.mem_reaching_iff, Bool.and_eq_true, List.mem_singleton, exists_eq_left]
    grind

/-- More flows bring more objects to a listener value. -/
theorem found_subset (ok : s.WellFormed) (small : s.Fed fs t) (big : s.Fed gs u) (sub : fs ⊆ gs)
    (srcs : ∀ f ∈ fs, s.isOperand f.src) (ready : s.Joinable task.listener task.view) :
    r.found t task reg ⊆ r.found u task reg := by
  intro c
  rw [mem_found small.wellFormed, mem_found big.wellFormed]
  rintro ⟨given, fits, objects⟩
  have known := Store.isSome_of_isOperand (ready.1 given)
  refine ⟨given, fits, ?_⟩
  rcases objects with ⟨bound, x, linked, object⟩ | own
  · obtain ⟨later, old⟩ := small.linked_of_subset ok big sub srcs known linked
    exact .inl ⟨bound, x, later, (small.hasObject_iff big old).1 object⟩
  · exact .inr ((small.hasObject_iff big known).1 own)

/-- On the graph `u` a registration is owed no more than on the graph `s`: if it finds no listener on
`s`, it finds none on `u`, and every flow that it is owed on `u` it is owed on `s`. -/
def Undisturbed (r : Resolver) (s u : Store) (task : DispatchTask) : Prop :=
  (∀ reg ∈ r.registrationAt? s task.op, r.found s task reg = [] → r.found u task reg = []) ∧
    ∀ f ∈ r.taskFeeds u task, f ∈ r.taskFeeds s task

instance (r : Resolver) (s u : Store) (task : DispatchTask) :
    Decidable (r.Undisturbed s u task) :=
  inferInstanceAs (Decidable (_ ∧ _))

theorem registrationAt?_of_fed (ok : s.WellFormed) (fed : s.Fed fs t) (op : NodeId) :
    r.registrationAt? t op = r.registrationAt? s op := by
  rw [registrationAt?, registrationAt?, fed.operationAt_eq ok]

/-- A registration that finds listeners is owed more where it finds more. -/
theorem taskFeeds_subset (same : r.registrationAt? t task.op = r.registrationAt? u task.op)
    (entry : r.registrationAt? u task.op = some reg)
    (more : r.found t task reg ⊆ r.found u task reg) (some : r.found t task reg ≠ []) :
    r.taskFeeds t task ⊆ r.taskFeeds u task := by
  have some' : r.found u task reg ≠ [] := fun none => some (List.subset_nil.1 (none ▸ more))
  simp only [taskFeeds, same, entry, candidates, if_neg some, if_neg some']
  intro f owed
  obtain ⟨c, found, fed⟩ := List.mem_flatMap.1 owed
  exact List.mem_flatMap.2 ⟨c, more found, fed⟩

/-- A registration that is undisturbed by all flows of a queue is undisturbed by some of them. -/
theorem Undisturbed.mem_taskFeeds_iff (ok : s.WellFormed) (named : s.Named) (small : s.Fed fs t)
    (big : s.Fed gs u) (sub : fs ⊆ gs) (srcs : ∀ f ∈ fs, s.isOperand f.src) (ready : r.Ready s task)
    (undisturbed : r.Undisturbed s u task) {f : Feed} :
    f ∈ r.taskFeeds t task ↔ f ∈ r.taskFeeds s task := by
  obtain ⟨reg, entry⟩ := Option.isSome_iff_exists.1 ready.registers
  have sameT : r.registrationAt? t task.op = r.registrationAt? s task.op :=
    registrationAt?_of_fed ok small task.op
  have sameU : r.registrationAt? u task.op = r.registrationAt? s task.op :=
    registrationAt?_of_fed ok big task.op
  have low : r.found s task reg ⊆ r.found t task reg :=
    found_subset ok (.refl ok named) small (by simp) (by simp) ready.joinable
  have high : r.found t task reg ⊆ r.found u task reg :=
    found_subset ok small big sub srcs ready.joinable
  -- Without a listener the hierarchy decides on both graphs; with one, the flows form a chain.
  by_cases none : r.found s task reg = []
  · have noneT : r.found t task reg = [] :=
      List.subset_nil.1 (undisturbed.1 reg entry none ▸ high)
    simp only [taskFeeds, sameT, entry, none, noneT]
  · have someT : r.found t task reg ≠ [] := fun noneT => none (List.subset_nil.1 (noneT ▸ low))
    constructor
    · intro owed
      exact undisturbed.2 f
        (taskFeeds_subset (sameT.trans sameU.symm) (sameU.trans entry) high someT owed)
    · intro owed
      exact taskFeeds_subset sameT.symm (sameT.trans entry) low none owed

/-- The flows that a registration is owed start at its listener or its view. -/
theorem src_of_mem_taskFeeds {f : Feed} (owed : f ∈ r.taskFeeds t task) :
    f.src ≠ 0 ∧ (f.src = task.listener ∨ f.src = task.view) := by
  unfold taskFeeds at owed
  split at owed
  case h_1 reg _ =>
    obtain ⟨c, -, fed⟩ := List.mem_flatMap.1 owed
    obtain ⟨target, -, fed⟩ := List.mem_flatMap.1 fed
    rcases Target.mem_feeds.1 fed with ⟨given, rfl⟩ | ⟨i, -, given, rfl⟩
    · exact ⟨given, .inl rfl⟩
    · exact ⟨given, .inr rfl⟩
  case h_2 => cases owed

theorem Ready.isOperand_src (ready : r.Ready s task) {f : Feed} (owed : f ∈ r.taskFeeds t task) :
    s.isOperand f.src := by
  obtain ⟨given, same | same⟩ := src_of_mem_taskFeeds owed
  · exact same ▸ ready.joinable.1 (same ▸ given)
  · exact same ▸ ready.joinable.2 (same ▸ given)

theorem Ready.of_fed (ok : s.WellFormed) (fed : s.Fed fs t) (ready : r.Ready s task) :
    r.Ready t task where
  deferred := ready.deferred
  registers := registrationAt?_of_fed ok fed task.op ▸ ready.registers
  joinable := ⟨fun given => fed.grows.isOperand (ready.joinable.1 given),
    fun given => fed.grows.isOperand (ready.joinable.2 given)⟩

end Resolver

/-! ### A queue -/

section Queue

variable {r : Resolver} {s t u : Store} {fs gs : List Feed} {tasks tasks' : List DispatchTask}

/-- The flows that a queue is owed on a graph. -/
def Resolver.owed (r : Resolver) (s : Store) (tasks : List DispatchTask) : List Feed :=
  tasks.flatMap (r.taskFeeds s)

theorem owed_subset (sub : tasks ⊆ tasks') : r.owed s tasks ⊆ r.owed s tasks' := by
  intro f owed
  obtain ⟨task, listed, owed⟩ := List.mem_flatMap.1 owed
  exact List.mem_flatMap.2 ⟨task, sub listed, owed⟩

theorem isOperand_of_mem_owed (ready : ∀ task ∈ tasks, r.Ready s task) :
    ∀ f ∈ r.owed s tasks, s.isOperand f.src := by
  intro f owed
  obtain ⟨task, listed, owed⟩ := List.mem_flatMap.1 owed
  exact (ready task listed).isOperand_src owed

/-- A queue of registrations that are ready is done to its end, and only flows are added that they are
owed at some time. -/
theorem exists_fed_deferred (ok : s.WellFormed) (named : s.Named)
    (ready : ∀ task ∈ tasks, r.Ready s task) :
    Triple (fun w => w.store = s) (tasks.forM (Dispatch.resolveDeferred r))
      (fun _ w => ∃ fs, s.Fed fs w.store ∧ ∀ f ∈ fs, ∃ task ∈ tasks, ∃ t, f ∈ r.taskFeeds t task)
      fun _ _ => False := by
  let fedBy (done : List DispatchTask) (w : Workspace) : Prop :=
    ∃ fs, s.Fed fs w.store ∧ ∀ f ∈ fs, ∃ task ∈ done, ∃ t, f ∈ r.taskFeeds t task
  have loop : Triple (fedBy []) (tasks.forM (Dispatch.resolveDeferred r)) (fun _ => fedBy tasks)
      fun _ _ => False := by
    refine Triple.forM (I := fedBy) ?_
    rintro done task rest split v ⟨fs, fed, owed⟩
    have step := fed_resolveDeferred fed.wellFormed fed.named r task
    refine step.conseq (fun _ at_v => at_v) (fun _ w more => ?_) (fun _ _ failed => ?_) v rfl
    · refine ⟨_, fed.trans more, fun f listed => ?_⟩
      rcases List.mem_append.1 listed with old | new
      · obtain ⟨task', early, owed⟩ := owed f old
        exact ⟨task', List.mem_append_left _ early, owed⟩
      · exact ⟨task, by simp, v.store, new⟩
    · exact failed ((ready task (by simp [split])).of_fed ok fed)
  refine loop.conseq (fun w same => ?_) (fun _ _ fed => fed) fun _ _ failed => failed
  exact ⟨[], by rw [same]; exact .refl ok named, by simp⟩

/-- If no registration of a queue is disturbed by flows that are enough for the queue, the queue adds
what it is owed on the graph before it. -/
theorem fed_deferred (ok : s.WellFormed) (named : s.Named) (big : s.Fed gs u)
    (enough : r.owed s tasks ⊆ gs) (ready : ∀ task ∈ tasks, r.Ready s task)
    (undisturbed : ∀ task ∈ tasks, r.Undisturbed s u task) :
    Triple (fun w => w.store = s) (tasks.forM (Dispatch.resolveDeferred r))
      (fun _ w => s.Fed (r.owed s tasks) w.store) fun _ _ => True := by
  have loop : Triple (fun w => s.Fed (r.owed s []) w.store)
      (tasks.forM (Dispatch.resolveDeferred r))
      (fun _ w => s.Fed (r.owed s tasks) w.store) fun _ _ => True := by
    refine Triple.forM (I := fun done w => s.Fed (r.owed s done) w.store) ?_
    intro done task rest split v fed
    have here : task ∈ tasks := by simp [split]
    have before : done ⊆ tasks := by simp [split]
    have srcs := isOperand_of_mem_owed fun a early => ready a (before early)
    have sub : r.owed s done ⊆ gs := fun f early => enough (owed_subset before early)
    -- What is done so far is part of what is owed, so the task meets no news.
    have same (f : Feed) : f ∈ r.taskFeeds v.store task ↔ f ∈ r.taskFeeds s task :=
      (undisturbed task here).mem_taskFeeds_iff ok named fed big sub srcs (ready task here)
    have step := fed_resolveDeferred fed.wellFormed fed.named r task
    refine step.relax.mono (fun _ w more => ?_) v rfl
    refine (fed.trans more).congr fun f => ?_
    simp [Resolver.owed, same]
  refine loop.conseq (fun w same => ?_) (fun _ _ fed => fed) fun _ _ failed => failed
  rw [same]
  exact .refl ok named

/-! ### Edges by names -/

/-- Where an edge starts or ends: a slot of a method, or another node. -/
inductive Place where
  | node (id : NodeId)
  | slot (l : Local)
  deriving DecidableEq

namespace Store

/-- The place of a node. Slots are known by their names, since their numbers tell in what order they
were met. -/
def place (s : Store) (id : NodeId) : Place :=
  match s.node? id with
  | some ⟨_, .entity (.slot l)⟩ => .slot l
  | _ => .node id

/-- The edges, by places. -/
def placedEdges (s : Store) : List (Place × Place × Site) :=
  s.edges.map fun e => (s.place e.src, s.place e.dst, e.site)

theorem Grows.place (grows : s.Grows t) {id : NodeId} (known : (s.node? id).isSome) :
    t.place id = s.place id := by
  obtain ⟨n, before⟩ := Option.isSome_iff_exists.1 known
  rw [Store.place, Store.place, before, grows.node? before]

theorem Carries.place {e : Edge} {f : Feed} (carries : t.Carries e f) :
    t.place e.dst = .slot f.slot := by
  rw [Store.place, carries.2.1]

/-- What has been fed shows as edges to slots. -/
theorem Fed.mem_placedEdges (ok : s.WellFormed) (fed : Fed s fs t)
    (srcs : ∀ f ∈ fs, s.isOperand f.src) {x : Place × Place × Site} :
    x ∈ t.placedEdges ↔
      x ∈ s.placedEdges ∨ ∃ f ∈ fs, x = (s.place f.src, .slot f.slot, f.site) := by
  have old {e : Edge} (there : e ∈ s.edges) : (t.place e.src, t.place e.dst, e.site) =
      (s.place e.src, s.place e.dst, e.site) := by
    rw [fed.grows.place (ok.hasEnds there).1, fed.grows.place (ok.hasEnds there).2]
  have new {e : Edge} {f : Feed} (owed : f ∈ fs) (carries : t.Carries e f) :
      (t.place e.src, t.place e.dst, e.site) = (s.place f.src, .slot f.slot, f.site) := by
    rw [carries.place, carries.1, carries.2.2,
      fed.grows.place (isSome_of_isOperand (srcs f owed))]
  simp only [placedEdges, List.mem_map]
  constructor
  · rintro ⟨e, there, rfl⟩
    rcases (fed.edges e).1 there with before | ⟨f, owed, carries⟩
    · exact .inl ⟨e, before, (old before).symm⟩
    · exact .inr ⟨f, owed, new owed carries⟩
  · rintro (⟨e, before, rfl⟩ | ⟨f, owed, rfl⟩)
    · exact ⟨e, (fed.edges e).2 (.inl before), old before⟩
    · obtain ⟨e, there, carries⟩ := fed.exists_edge owed
      exact ⟨e, there, new owed carries⟩

end Store

/-! ### Orders -/

variable {w v : Workspace}

theorem flush_of_deferred {P : Store → Prop} {fail : Fault → Workspace → Prop}
    (idle : w.dispatcher.wires = [])
    (work : Triple (fun v => v.store = w.store)
      (w.dispatcher.pending.forM (Dispatch.resolveDeferred r)) (fun _ v => P v.store) fail) :
    Triple (· = w) (Dispatch.flush r false) (fun _ v => P v.store) fail := by
  refine flush_of_work ?_
  rw [idle]
  exact Triple.bind work fun _ => Triple.pure fun _ holds => holds

/-- A flush of registrations that are ready succeeds. -/
theorem flush_succeeds (start : w.store = s) (ok : s.WellFormed) (named : s.Named)
    (idle : w.dispatcher.wires = []) (ready : ∀ task ∈ w.dispatcher.pending, r.Ready s task) :
    ∃ v, Dispatch.flush r false w = .ok () v := by
  subst start
  have flush := flush_of_deferred (P := fun _ => True) idle
    ((exists_fed_deferred ok named ready).mono fun _ _ _ => trivial)
  obtain ⟨⟨⟩, v, done, -⟩ := flush.exists_ok rfl
  exact ⟨v, done⟩

/-- A flush of registrations that are undisturbed shows as the edges that the queue is owed. -/
theorem flush_owed (start : w.store = s) (ok : s.WellFormed) (named : s.Named)
    (idle : w.dispatcher.wires = []) (ready : ∀ task ∈ w.dispatcher.pending, r.Ready s task)
    (big : s.Fed gs u) (enough : r.owed s w.dispatcher.pending ⊆ gs)
    (undisturbed : ∀ task ∈ w.dispatcher.pending, r.Undisturbed s u task)
    (done : Dispatch.flush r false w = .ok () v) {x : Place × Place × Site} :
    x ∈ v.store.placedEdges ↔ x ∈ s.placedEdges ∨
      ∃ f ∈ r.owed s w.dispatcher.pending, x = (s.place f.src, .slot f.slot, f.site) := by
  subst start
  have flush := flush_of_deferred (P := w.store.Fed (r.owed w.store w.dispatcher.pending)) idle
    (fed_deferred ok named big enough ready undisturbed)
  exact (flush.of_ok rfl done).mem_placedEdges ok (isOperand_of_mem_owed ready)

end Queue

/-- Deferred registrations that are ready can be flushed in any order. If all flows that they are owed
on the graph disturb none of them, these flows are what a flush adds, and the order does not show. -/
theorem flush_perm {qs : List StoreRequest} {r : Resolver} {w w' : Workspace}
    (built : w.store = Store.empty.run qs) (same : w'.store = w.store)
    (perm : w.dispatcher.pending.Perm w'.dispatcher.pending)
    (idle : w.dispatcher.wires = [] ∧ w'.dispatcher.wires = [])
    (ready : ∀ task ∈ w.dispatcher.pending, r.Ready w.store task) :
    ∃ v v', Dispatch.flush r false w = .ok () v ∧ Dispatch.flush r false w' = .ok () v' ∧
      ((∀ task ∈ w.dispatcher.pending, r.Undisturbed w.store
          (w.store.feedAll (r.owed w.store w.dispatcher.pending)) task) →
        (∀ x, x ∈ v.store.placedEdges ↔ x ∈ v'.store.placedEdges) ∧
        ∀ x, x ∈ v.store.placedEdges ↔ x ∈ w.store.placedEdges ∨
          ∃ f ∈ r.owed w.store w.dispatcher.pending,
            x = (w.store.place f.src, .slot f.slot, f.site)) := by
  have ok : w.store.WellFormed := built ▸ Store.wellFormed_run qs
  have named : w.store.Named := built ▸ Store.named_run qs
  have members (task : DispatchTask) : task ∈ w'.dispatcher.pending ↔ task ∈ w.dispatcher.pending :=
    perm.mem_iff.symm
  have ready' (task : DispatchTask) (there : task ∈ w'.dispatcher.pending) : r.Ready w.store task :=
    ready task ((members task).1 there)
  obtain ⟨v, done⟩ := flush_succeeds rfl ok named idle.1 ready
  obtain ⟨v', done'⟩ := flush_succeeds same ok named idle.2 ready'
  refine ⟨v, v', done, done', fun undisturbed => ?_⟩
  have big := Store.fed_feedAll ok named (isOperand_of_mem_owed ready)
  have owed (f : Feed) : f ∈ r.owed w.store w'.dispatcher.pending ↔
      f ∈ r.owed w.store w.dispatcher.pending := by
    simp only [Resolver.owed, List.mem_flatMap, members]
  have edges (x : Place × Place × Site) :=
    flush_owed rfl ok named idle.1 ready big (fun _ h => h) undisturbed done (x := x)
  have edges' (x : Place × Place × Site) :=
    flush_owed same ok named idle.2 ready' big (fun f h => (owed f).1 h)
      (fun task there => undisturbed task ((members task).1 there)) done' (x := x)
  refine ⟨fun x => ?_, edges⟩
  rw [edges, edges']
  simp only [owed]

/-! ### The receiver of a handler as a listener -/

/-- The given classes implement an interface with one handler. -/
def implementors (names : List String) : Resolver where
  hierarchy.classes := { name := "I", isInterface := true, methods := ["h"] } ::
    names.map fun c => { name := c, interfaces := ["I"], methods := ["h"] }
  table.registrations :=
    [{ method := "s", interface := "I", handlers := [{ method := "h", view := some 0 }] }]

/-- A value that holds an object of the class `C` is registered as a listener, and so is the receiver
of the handler of `C`. -/
def receiverListens : List StoreRequest :=
  [.internAlloc ⟨"new C", "C", .listener⟩,
   .internLocal ⟨"m", "l"⟩,
   .internLocal ⟨"m", "v"⟩,
   .internLocal (.this "<C: h>"),
   .internLocal (.param "<C: h>" 0),
   .internLocal (.this "<D: h>"),
   .internLocal (.param "<D: h>" 0),
   .addEdge 1 2 {},
   .createOperation { kind := "set-listener", operands := ⟨3, 2, 0⟩, listener := "I" },
   .createOperation { kind := "set-listener", operands := ⟨3, 4, 0⟩, listener := "I" }]

/-- The same, and the receiver holds an object of `C` from the start. -/
def receiverKnown : List StoreRequest := receiverListens ++ [.addEdge 1 4 {}]

def valueTask : DispatchTask := { listenerClass := "I", listener := 2, view := 3, op := 8 }

def receiverTask : DispatchTask := { listenerClass := "I", listener := 4, view := 3, op := 9 }

def waiting (qs : List StoreRequest) (tasks : List DispatchTask) : Workspace where
  store := Store.empty.run qs
  dispatcher.pending := tasks

/-- If the receiver is known to be a `C`, the object that flows there is no news. -/
theorem flush_perm_receiver :
    ∃ v v', Dispatch.flush (implementors ["C"]) false
        (waiting receiverKnown [valueTask, receiverTask]) = .ok () v ∧
      Dispatch.flush (implementors ["C"]) false
        (waiting receiverKnown [receiverTask, valueTask]) = .ok () v' ∧
      (∀ x, x ∈ v.store.placedEdges ↔ x ∈ v'.store.placedEdges) ∧
      (.slot ⟨"m", "l"⟩, .slot (.this "<C: h>"), {}) ∈ v.store.placedEdges := by
  obtain ⟨v, v', done, done', rest⟩ := @flush_perm _ (implementors ["C"])
    (waiting receiverKnown [valueTask, receiverTask])
    (waiting receiverKnown [receiverTask, valueTask])
    rfl rfl (.swap _ _ _) ⟨rfl, rfl⟩ (by decide +kernel)
  obtain ⟨same, edges⟩ := rest (by decide +kernel)
  exact ⟨v, v', done, done', same, (edges _).2 (by decide +kernel)⟩

/-- Otherwise the order shows. If the receiver comes first, no object has reached it, and it flows
into the handlers of all classes; if the value comes first, the receiver is known to be a `C`. -/
theorem not_forall_flush_perm : ¬ ∀ (qs : List StoreRequest) (r : Resolver) (w w' v v' : Workspace),
    w.store = Store.empty.run qs → w'.store = w.store →
    w.dispatcher.pending.Perm w'.dispatcher.pending →
    w.dispatcher.wires = [] ∧ w'.dispatcher.wires = [] →
    (∀ task ∈ w.dispatcher.pending, r.Ready w.store task) →
    Dispatch.flush r false w = .ok () v → Dispatch.flush r false w' = .ok () v' →
    ∀ x, x ∈ v.store.placedEdges ↔ x ∈ v'.store.placedEdges := by
  intro claim
  have first : (match Dispatch.flush (implementors ["C", "D"]) false
        (waiting receiverListens [valueTask, receiverTask]) with
      | .ok _ v =>
        decide ((.slot (.this "<C: h>"), .slot (.this "<D: h>"), {}) ∉ v.store.placedEdges)
      | .error _ _ => false) = true := by cbv
  have second : (match Dispatch.flush (implementors ["C", "D"]) false
        (waiting receiverListens [receiverTask, valueTask]) with
      | .ok _ v =>
        decide ((.slot (.this "<C: h>"), .slot (.this "<D: h>"), {}) ∈ v.store.placedEdges)
      | .error _ _ => false) = true := by cbv
  split at first
  case h_2 => cases first
  case h_1 v done =>
    split at second
    case h_2 => cases second
    case h_1 v' done' =>
      have same := claim receiverListens (implementors ["C", "D"])
        (waiting receiverListens [valueTask, receiverTask])
        (waiting receiverListens [receiverTask, valueTask]) v v' rfl rfl (.swap _ _ _) ⟨rfl, rfl⟩
        (by decide +kernel) done done'
      exact of_decide_eq_true first ((same _).2 (of_decide_eq_true second))

end WidgetFlow
