import WidgetFlow.Proofs.Listener.Types
import WidgetFlow.Proofs.Solver.Run

/-!
# Solutions are exact

The ten maps of a solution, each described by what flows where in the prewired graph and by the
tables, without a word about passes, closures or slots: every pair that the description has is in
the map, and no other (`viewMaps_exact`, `listenerMaps_exact`).

The listener maps are not described by flows alone. A window counts as a listener of every
registration in its closure, by whichever operand it gets there, so a solution may have listeners
that do not flow into the listener slot; these are windows whose classes implement the registered
interface, and nothing else (`solutionListeners_flow`).
-/

namespace WidgetFlow

namespace Solve

open Work

variable {G : Store}

/-! ### Nodes and operations -/

/-- The node is an allocation of an object of kind `k`. -/
def AllocationAt (G : Store) (x : NodeId) (k : ObjectKind) : Prop :=
  ∃ n, G.node? x = some n ∧ n.kind = .allocation ∧ n.object? = some k

/-- The node supplies GUI objects: it allocates one, or is an operation that yields one. -/
def ProducerAt (G : Store) (x : NodeId) : Prop :=
  (∃ k, AllocationAt G x k ∧ k.isProducer = true) ∨
    ∃ o, G.operationAt x = some o ∧ o.kind.isProducer = true

/-- The node allocates a menu. -/
def MenuAt (G : Store) (x : NodeId) : Prop := ∃ k, AllocationAt G x k ∧ k.isMenu = true

/-- The node is an allocation or a window whose class implements an interface of the listener
table. -/
def ListenerAt (G : Store) (r : Resolver) (x : NodeId) (n : Node) : Prop :=
  G.node? x = some n ∧ n.isObject = true ∧
    ∃ reg ∈ r.table.registrations, r.implements n.className reg.interface = true

theorem isProducer_iff {n : Node} : isProducer n = true ↔
    (n.kind = .allocation ∧ ∃ k, n.object? = some k ∧ k.isProducer = true) ∨
      ∃ o, n.operation? = some o ∧ o.kind.isProducer = true := by
  obtain ⟨id, body⟩ := n
  unfold isProducer
  cases body with
  | entity e => cases e <;> simp [Node.operation?, Node.kind, Node.object?]
  | synthetic serial className kind => simp [Node.operation?, Node.kind, Node.object?]
  | operation o => simp [Node.operation?, Node.kind, Node.object?]

theorem producerAt_iff {x : NodeId} :
    ProducerAt G x ↔ ∃ n, G.node? x = some n ∧ isProducer n = true := by
  simp only [ProducerAt, AllocationAt, Store.operationAt_eq_some_iff, isProducer_iff]
  grind

/-! ### Found pairs -/

variable {t : Classification} {r : Resolver} {m : MapName} {k i : NodeId}

theorem visitPairs_filter (wf : G.WellFormed) {q : Node → Bool} {each : Node → OpNode → Pairs} :
    visitPairs G (G.nodes.filter q) each m k i ↔ ∃ n op o, G.node? n.id = some n ∧ q n = true ∧
      G.operationAt op = some o ∧ Linked G.targets n.id op ∧ each n ⟨op, o⟩ m k i := by
  constructor
  · rintro ⟨n, there, ⟨op, o⟩, linked, isOp, added⟩
    obtain ⟨listed, passes⟩ := List.mem_filter.1 there
    exact ⟨n, op, o, wf.mem_nodes_iff.1 listed, passes, isOp, linked, added⟩
  · rintro ⟨n, op, o, known, passes, isOp, linked, added⟩
    exact ⟨n, List.mem_filter.2 ⟨wf.mem_nodes_iff.2 known, passes⟩, ⟨op, o⟩, linked, isOp, added⟩

/-- What is found, with the nodes and operations of the graph in place of lists. -/
theorem foundPairs_iff (wf : G.WellFormed) : foundPairs G t r m k i ↔
    (∃ n op o, G.node? n.id = some n ∧ isProducer n = true ∧ G.operationAt op = some o ∧
      Linked G.targets n.id op ∧ producerPairs G t n ⟨op, o⟩ m k i) ∨
    (∃ n op o, G.node? n.id = some n ∧ n.isWindow = true ∧ G.operationAt op = some o ∧
      Linked G.targets n.id op ∧ windowPairs G t r n ⟨op, o⟩ m k i) ∨
    (∃ n op o, G.node? n.id = some n ∧ (r.isListenerType n.className && n.isObject) = true ∧
      G.operationAt op = some o ∧ Linked G.targets n.id op ∧ objectPairs G r n ⟨op, o⟩ m k i) := by
  rw [foundPairs, producers, Store.windows, Store.objects, List.filter_filter, visitPairs_filter wf,
    visitPairs_filter wf, visitPairs_filter wf]

/-! ### View maps -/

/-- The maps of a role are exact: what reaches the role are the producers that flow into it where
`Enters` lets them, an operation among them is recorded in both directions, and an allocation is in
the solution if the table accepts its object in the role. -/
structure RoleExact (G : Store) (t : Classification) (sol : Solution) (m : RoleMaps)
    (Enters : NodeId → Operation → Prop) : Prop where
  reaching : ∀ op p, p ∈ (sol.get m.reaching).ids op ↔
    ProducerAt G p ∧ (∃ o, G.operationAt op = some o ∧ Enters p o) ∧ G.FlowsTo p op m.role
  solution : ∀ op p, p ∈ (sol.get m.solution).ids op ↔
    p ∈ (sol.get m.reaching).ids op ∧ ∃ k o, AllocationAt G p k ∧ G.operationAt op = some o ∧
      t.lookup? k o.kind.name m.role = some .accept
  reached : ∀ p op, op ∈ (sol.get m.reached).ids p ↔
    p ∈ (sol.get m.reaching).ids op ∧ ∃ o, G.operationAt p = some o

theorem isOperation_eq_false_iff {n : Node} (producer : isProducer n = true) :
    n.isOperation = false ↔ n.kind = .allocation ∧ ∃ k, n.object? = some k := by
  obtain ⟨id, body⟩ := n
  cases body with
  | entity e =>
    cases e <;>
      simp_all [isProducer, Node.isOperation, Node.operation?, Node.kind, Node.object?]
  | synthetic serial className kind =>
    simp [Node.isOperation, Node.operation?, Node.kind, Node.object?]
  | operation o => simp [Node.isOperation, Node.operation?, Node.kind]

section Role

variable {sol : Solution} {maps : RoleMaps} {enters : Node → OpKind → Prop}

/-- A role has maps of its own. -/
def Apart (maps : RoleMaps) : Prop := [maps.reaching, maps.solution, maps.reached].Nodup

instance (maps : RoleMaps) : Decidable (Apart maps) := inferInstanceAs (Decidable (List.Nodup _))

/-- The maps of a role have what producers add to them where `enters` lets them. -/
def HasRolePairs (G : Store) (t : Classification) (sol : Solution) (maps : RoleMaps)
    (enters : Node → OpKind → Prop) : Prop :=
  ∀ m ∈ [maps.reaching, maps.solution, maps.reached], ∀ k i, i ∈ (sol.get m).ids k ↔
    ∃ n op o, G.node? n.id = some n ∧ isProducer n = true ∧ G.operationAt op = some o ∧
      enters n o.kind ∧ rolePairs G t n ⟨op, o⟩ maps m k i

/-- A producer and an operation where it flows into the role. -/
structure Meets (G : Store) (role : Role) (enters : Node → OpKind → Prop) (op p : NodeId) (n : Node)
    (o : Operation) : Prop where
  known : G.node? p = some n
  producer : isProducer n = true
  isOp : G.operationAt op = some o
  enter : enters n o.kind
  flows : G.FlowsTo p op role

theorem HasRolePairs.reaching (has : HasRolePairs G t sol maps enters) (wf : G.WellFormed)
    (apart : Apart maps) (op p : NodeId) :
    p ∈ (sol.get maps.reaching).ids op ↔ ∃ n o, Meets G maps.role enters op p n o := by
  have ne : maps.reaching ≠ maps.solution ∧ maps.reaching ≠ maps.reached := by
    simpa using (List.nodup_cons.1 apart).1
  rw [has maps.reaching (by simp)]
  constructor
  · rintro ⟨n, _, o, known, producer, isOp, enter, flows, pair⟩
    simp only [ne, true_and, false_and, and_false, or_false] at pair
    obtain ⟨rfl, rfl⟩ := pair
    exact ⟨n, o, known, producer, isOp, enter, flows⟩
  · rintro ⟨n, o, meets⟩
    obtain rfl := wf.id_of_node? meets.known
    exact ⟨n, op, o, meets.known, meets.producer, meets.isOp, meets.enter, meets.flows,
      .inl ⟨rfl, rfl, rfl⟩⟩

theorem HasRolePairs.solution (has : HasRolePairs G t sol maps enters) (wf : G.WellFormed)
    (apart : Apart maps) (op p : NodeId) :
    p ∈ (sol.get maps.solution).ids op ↔ ∃ n o, Meets G maps.role enters op p n o ∧
      n.isOperation = false ∧ Accepts t n ⟨op, o⟩ maps.role := by
  have ne : maps.solution ≠ maps.reaching ∧ maps.solution ≠ maps.reached := by
    simp only [Apart, List.nodup_cons, List.mem_cons, not_or] at apart
    exact ⟨Ne.symm apart.1.1, apart.2.1.1⟩
  rw [has maps.solution (by simp)]
  constructor
  · rintro ⟨n, _, o, known, producer, isOp, enter, flows, pair⟩
    simp only [ne, true_and, false_and, and_false, false_or] at pair
    obtain ⟨plain, accepts, rfl, rfl⟩ := pair
    exact ⟨n, o, ⟨known, producer, isOp, enter, flows⟩, plain, accepts⟩
  · rintro ⟨n, o, meets, plain, accepts⟩
    obtain rfl := wf.id_of_node? meets.known
    exact ⟨n, op, o, meets.known, meets.producer, meets.isOp, meets.enter, meets.flows,
      .inr (.inr ⟨plain, accepts, rfl, rfl, rfl⟩)⟩

theorem HasRolePairs.reached (has : HasRolePairs G t sol maps enters) (wf : G.WellFormed)
    (apart : Apart maps) (op p : NodeId) :
    op ∈ (sol.get maps.reached).ids p ↔ ∃ n o, Meets G maps.role enters op p n o ∧
      n.isOperation = true := by
  have ne : maps.reached ≠ maps.reaching ∧ maps.reached ≠ maps.solution := by
    simp only [Apart, List.nodup_cons, List.mem_cons, not_or] at apart
    exact ⟨Ne.symm apart.1.2.1, Ne.symm apart.2.1.1⟩
  rw [has maps.reached (by simp)]
  constructor
  · rintro ⟨n, _, o, known, producer, isOp, enter, flows, pair⟩
    simp only [ne, true_and, false_and, and_false, false_or, or_false] at pair
    obtain ⟨yields, rfl, rfl⟩ := pair
    exact ⟨n, o, ⟨known, producer, isOp, enter, flows⟩, yields⟩
  · rintro ⟨n, o, meets, yields⟩
    obtain rfl := wf.id_of_node? meets.known
    exact ⟨n, op, o, meets.known, meets.producer, meets.isOp, meets.enter, meets.flows,
      .inr (.inl ⟨yields, rfl, rfl, rfl⟩)⟩

/-- The maps of a role are exact if they have what producers add to them. -/
theorem HasRolePairs.exact {Enters : NodeId → Operation → Prop}
    (has : HasRolePairs G t sol maps enters) (wf : G.WellFormed) (apart : Apart maps)
    (same : ∀ {p n o}, G.node? p = some n → isProducer n = true → (enters n o.kind ↔ Enters p o)) :
    RoleExact G t sol maps Enters where
  reaching op p := by
    rw [has.reaching wf apart]
    constructor
    · rintro ⟨n, o, meets⟩
      exact ⟨producerAt_iff.2 ⟨n, meets.known, meets.producer⟩,
        ⟨o, meets.isOp, (same meets.known meets.producer).1 meets.enter⟩, meets.flows⟩
    · rintro ⟨producer, ⟨o, isOp, enter⟩, flows⟩
      obtain ⟨n, known, producer⟩ := producerAt_iff.1 producer
      exact ⟨n, o, known, producer, isOp, (same known producer).2 enter, flows⟩
  solution op p := by
    rw [has.solution wf apart, has.reaching wf apart]
    constructor
    · rintro ⟨n, o, meets, plain, accepts⟩
      obtain ⟨allocation, kind, object⟩ := (isOperation_eq_false_iff meets.producer).1 plain
      rw [Accepts, object] at accepts
      exact ⟨⟨n, o, meets⟩, kind, o, ⟨n, meets.known, allocation, object⟩, meets.isOp, accepts⟩
    · rintro ⟨⟨n, o, meets⟩, kind, o', ⟨n', known, allocation, object⟩, isOp, accepts⟩
      cases meets.known.symm.trans known
      cases meets.isOp.symm.trans isOp
      have plain := (isOperation_eq_false_iff meets.producer).2 ⟨allocation, kind, object⟩
      refine ⟨n, o, meets, plain, ?_⟩
      rw [Accepts, object]
      exact accepts
  reached p op := by
    rw [has.reached wf apart, has.reaching wf apart]
    constructor
    · rintro ⟨n, o, meets, yields⟩
      obtain ⟨o', isOp⟩ := Option.isSome_iff_exists.1 yields
      exact ⟨⟨n, o, meets⟩, o', Store.operationAt_eq_some_iff.2 ⟨n, meets.known, isOp⟩⟩
    · rintro ⟨⟨n, o, meets⟩, o', yields⟩
      obtain ⟨n', known, isOp⟩ := Store.operationAt_eq_some_iff.1 yields
      cases meets.known.symm.trans known
      exact ⟨n, o, meets, Option.isSome_iff_exists.2 ⟨o', isOp⟩⟩

/-- Only producers add to the maps of a role, and only where they flow into it. -/
theorem HasRolePairs.of_found (wf : G.WellFormed) (input : maps.role ≠ .result)
    (found : ∀ m k i, i ∈ (sol.get m).ids k ↔ foundPairs G t r m k i)
    (own : ∀ m ∈ [maps.reaching, maps.solution, maps.reached], ∀ n op k i,
      (producerPairs G t n op m k i ↔ enters n op.op.kind ∧ rolePairs G t n op maps m k i) ∧
        ¬ windowPairs G t r n op m k i ∧ ¬ objectPairs G r n op m k i) :
    HasRolePairs G t sol maps enters := by
  intro m there k i
  rw [found, foundPairs_iff wf]
  constructor
  · rintro (⟨n, op, o, known, producer, isOp, -, pair⟩ | ⟨n, op, o, -, -, -, -, pair⟩ |
      ⟨n, op, o, -, -, -, -, pair⟩)
    · obtain ⟨enter, pair⟩ := (own m there n ⟨op, o⟩ k i).1.1 pair
      exact ⟨n, op, o, known, producer, isOp, enter, pair⟩
    · exact absurd pair (own m there n ⟨op, o⟩ k i).2.1
    · exact absurd pair (own m there n ⟨op, o⟩ k i).2.2
  · rintro ⟨n, op, o, known, producer, isOp, enter, pair⟩
    have linked := wf.linked_of_flowsTo pair.1 input
    have added := (own m there n ⟨op, o⟩ k i).1.2 ⟨enter, pair⟩
    exact .inl ⟨n, op, o, known, producer, isOp, linked, added⟩

theorem HasRolePairs.parameter (wf : G.WellFormed)
    (found : ∀ m k i, i ∈ (sol.get m).ids k ↔ foundPairs G t r m k i) :
    HasRolePairs G t sol parameterMaps fun _ k =>
      k.isListener = false ∧ k.signature.has .parameter = true := by
  refine .of_found wf (by decide) found fun m there n op k i => ?_
  simp only [parameterMaps, List.mem_cons, List.not_mem_nil, or_false] at there
  rcases there with rfl | rfl | rfl <;>
    simp [producerPairs, slotPairs, rolePairs, parameterMaps, receiverMaps, windowPairs,
      objectPairs, listenerPairs]

theorem HasRolePairs.receiver (wf : G.WellFormed)
    (found : ∀ m k i, i ∈ (sol.get m).ids k ↔ foundPairs G t r m k i) :
    HasRolePairs G t sol receiverMaps fun n k => takesReceiver n k = true := by
  refine .of_found wf (by decide) found fun m there n op k i => ?_
  simp only [receiverMaps, List.mem_cons, List.not_mem_nil, or_false] at there
  rcases there with rfl | rfl | rfl <;>
    simp [producerPairs, slotPairs, rolePairs, parameterMaps, receiverMaps, windowPairs,
      objectPairs, listenerPairs]

end Role

theorem menuAt_iff {p : NodeId} {n : Node} (known : G.node? p = some n)
    (producer : isProducer n = true) : MenuAt G p ↔ n.object?.any (·.isMenu) = true := by
  rw [Option.any_eq_true]
  constructor
  · rintro ⟨k, ⟨n', known', -, object⟩, menu⟩
    cases known.symm.trans known'
    exact ⟨k, object, menu⟩
  · rintro ⟨k, object, menu⟩
    rcases isProducer_iff.1 producer with ⟨allocation, -⟩ | ⟨o, isOp, -⟩
    · exact ⟨k, ⟨n, known, allocation, object⟩, menu⟩
    · -- An operation is no object.
      obtain ⟨id, body⟩ := n
      cases body <;> simp_all [Node.operation?, Node.object?]

theorem takesReceiver_iff {p : NodeId} {n : Node} {k : OpKind} (known : G.node? p = some n)
    (producer : isProducer n = true) : takesReceiver n k = true ↔ k.signature.has .receiver = true ∧
      (k.signature.scope = .view ∨ k.signature.scope = .menu) ∧ ¬ (MenuAt G p ∧ k = .setId) := by
  rw [menuAt_iff known producer]
  unfold takesReceiver
  cases n.object?.any (·.isMenu) <;> simp [and_assoc]

/-! ### The window map and the listener maps -/

theorem found_reachingWindows (wf : G.WellFormed) {op x : NodeId} :
    foundPairs G t r .reachingWindows op x ↔
      ∃ n o, G.node? x = some n ∧ n.isWindow = true ∧ G.operationAt op = some o ∧
        o.kind.signature.scope = .window ∧ o.kind.signature.has .receiver = true ∧
        G.FlowsTo x op .receiver ∧
        t.lookup? (n.object?.getD (.other "")) o.kind.name .receiver = some .accept := by
  simp only [foundPairs_iff wf, producerPairs, slotPairs, rolePairs, parameterMaps, receiverMaps,
    windowPairs, objectPairs, listenerPairs, reduceCtorEq, false_and, and_false, or_false, false_or,
    exists_false, true_and]
  constructor
  · rintro ⟨n, _, o, known, window, isOp, -, ⟨scope, declared⟩, ⟨flows, accepts⟩, rfl, rfl⟩
    exact ⟨n, o, known, window, isOp, scope, declared, flows, accepts⟩
  · rintro ⟨n, o, known, window, isOp, scope, declared, flows, accepts⟩
    obtain rfl := wf.id_of_node? known
    exact ⟨n, op, o, known, window, isOp, wf.linked_of_flowsTo flows (by decide), ⟨scope, declared⟩,
      ⟨flows, accepts⟩, rfl, rfl⟩

theorem found_reachingListeners (wf : G.WellFormed) {op x : NodeId} :
    foundPairs G t r .reachingListeners op x ↔
      ∃ o, G.operationAt op = some o ∧ o.kind.isListener = true ∧
        ((ProducerAt G x ∧ G.FlowsTo x op .parameter) ∨
          (∃ n, G.node? x = some n ∧ n.isWindow = true ∧ Linked G.targets x op) ∨
          ∃ n, ListenerAt G r x n ∧ G.FlowsTo x op .parameter) := by
  simp only [foundPairs_iff wf, producerPairs, slotPairs, rolePairs, parameterMaps, receiverMaps,
    windowPairs, objectPairs, listenerPairs, reduceCtorEq, false_and, and_false, or_false, false_or,
    true_and, Bool.and_eq_true]
  constructor
  · rintro (⟨n, _, o, known, producer, isOp, -, registers, flows, rfl, rfl⟩ |
      ⟨n, _, o, known, window, isOp, linked, registers, rfl, rfl⟩ |
      ⟨n, _, o, known, ⟨fits, object⟩, isOp, -, registers, flows, rfl, rfl⟩)
    · exact ⟨o, isOp, registers, .inl ⟨producerAt_iff.2 ⟨n, known, producer⟩, flows⟩⟩
    · exact ⟨o, isOp, registers, .inr (.inl ⟨n, known, window, linked⟩)⟩
    · exact ⟨o, isOp, registers, .inr (.inr ⟨n, ⟨known, object, isListenerType_iff.1 fits⟩, flows⟩)⟩
  · rintro ⟨o, isOp, registers, ⟨supplies, flows⟩ | ⟨n, known, window, linked⟩ |
      ⟨n, ⟨known, object, fits⟩, flows⟩⟩
    · obtain ⟨n, known, producer⟩ := producerAt_iff.1 supplies
      obtain rfl := wf.id_of_node? known
      have linked := wf.linked_of_flowsTo flows (by decide)
      exact .inl ⟨n, op, o, known, producer, isOp, linked, registers, flows, rfl, rfl⟩
    · obtain rfl := wf.id_of_node? known
      exact .inr (.inl ⟨n, op, o, known, window, isOp, linked, registers, rfl, rfl⟩)
    · obtain rfl := wf.id_of_node? known
      exact .inr (.inr ⟨n, op, o, known, ⟨isListenerType_iff.2 fits, object⟩, isOp,
        wf.linked_of_flowsTo flows (by decide), registers, flows, rfl, rfl⟩)

/-- The window reaches the registration, and its class implements the registered interface. -/
def WindowListens (G : Store) (r : Resolver) (x op : NodeId) (o : Operation) : Prop :=
  ∃ n, G.node? x = some n ∧ n.isWindow = true ∧ Linked G.targets x op ∧
    r.implements n.className o.listener = true

/-- The object of a listener type flows into the listener slot, and its class implements the
registered interface, if there is one. -/
def ObjectListens (G : Store) (r : Resolver) (x op : NodeId) (o : Operation) : Prop :=
  ∃ n, ListenerAt G r x n ∧ G.FlowsTo x op .parameter ∧
    (o.listener = "" ∨ r.implements n.className o.listener = true)

theorem found_solutionListeners (wf : G.WellFormed) {op x : NodeId} :
    foundPairs G t r .solutionListeners op x ↔
      ∃ o, G.operationAt op = some o ∧ o.kind.isListener = true ∧
        (WindowListens G r x op o ∨ ObjectListens G r x op o) := by
  simp only [foundPairs_iff wf, producerPairs, slotPairs, rolePairs, parameterMaps, receiverMaps,
    windowPairs, objectPairs, listenerPairs, reduceCtorEq, false_and, and_false, or_false, false_or,
    exists_false, true_and, Bool.and_eq_true]
  constructor
  · rintro (⟨n, _, o, known, window, isOp, linked, registers, implements, rfl, rfl⟩ |
      ⟨n, _, o, known, ⟨fits, object⟩, isOp, -, registers, flows, implements, rfl, rfl⟩)
    · exact ⟨o, isOp, registers, .inl ⟨n, known, window, linked, implements⟩⟩
    · exact ⟨o, isOp, registers,
        .inr ⟨n, ⟨known, object, isListenerType_iff.1 fits⟩, flows, implements⟩⟩
  · rintro ⟨o, isOp, registers, ⟨n, known, window, linked, implements⟩ |
      ⟨n, ⟨known, object, fits⟩, flows, implements⟩⟩
    · obtain rfl := wf.id_of_node? known
      exact .inl ⟨n, op, o, known, window, isOp, linked, registers, implements, rfl, rfl⟩
    · obtain rfl := wf.id_of_node? known
      exact .inr ⟨n, op, o, known, ⟨isListenerType_iff.2 fits, object⟩, isOp,
        wf.linked_of_flowsTo flows (by decide), registers, flows, implements, rfl, rfl⟩

theorem found_reachedListeners (wf : G.WellFormed) {p op : NodeId} :
    foundPairs G t r .reachedListeners p op ↔
      (∃ o, G.operationAt p = some o ∧ o.kind.isProducer = true) ∧
        (∃ o, G.operationAt op = some o ∧ o.kind.isListener = true) ∧
        G.FlowsTo p op .parameter := by
  simp only [foundPairs_iff wf, producerPairs, slotPairs, rolePairs, parameterMaps, receiverMaps,
    windowPairs, objectPairs, listenerPairs, reduceCtorEq, false_and, and_false, or_false, false_or,
    exists_false, true_and]
  constructor
  · rintro ⟨n, _, o, known, producer, isOp, -, registers, flows, yields, rfl, rfl⟩
    obtain ⟨o', isOp'⟩ := Option.isSome_iff_exists.1 yields
    have kind : o'.kind.isProducer = true := by simpa [isProducer, isOp'] using producer
    have yielding := Store.operationAt_eq_some_iff.2 ⟨n, known, isOp'⟩
    exact ⟨⟨o', yielding, kind⟩, ⟨o, isOp, registers⟩, flows⟩
  · rintro ⟨⟨o', yields, kind⟩, ⟨o, isOp, registers⟩, flows⟩
    obtain ⟨n, known, isOp'⟩ := Store.operationAt_eq_some_iff.1 yields
    obtain rfl := wf.id_of_node? known
    exact ⟨n, op, o, known, isProducer_iff.2 (.inr ⟨o', isOp', kind⟩), isOp,
      wf.linked_of_flowsTo flows (by decide), registers, flows,
      Option.isSome_iff_exists.2 ⟨o', isOp'⟩, rfl, rfl⟩

/-! ### A window that looks up a view -/

/-- The window `M` implements the listener interface. It looks up a view by its id and sets a
listener that is not the window, so it reaches the registration only through the view. -/
def lookupRequests : List StoreRequest :=
  [.internWindow ⟨.activity, "M", ""⟩,
   .internLocal ⟨"m", "this"⟩,
   .internLocal ⟨"m", "view"⟩,
   .internLocal ⟨"m", "listener"⟩,
   .internResource ⟨"widget", 7⟩,
   .addEdge 1 2 {},
   .createOperation { kind := "window-find-view", operands := ⟨2, 5, 3⟩ },
   .createOperation { kind := "set-listener", operands := ⟨3, 4, 0⟩, listener := "I" }]

def lookupResolver : Resolver where
  hierarchy := { classes := [{ name := "I", isInterface := true, methods := ["h"] },
    { name := "M", interfaces := ["I"], methods := ["h"] }] }
  table := { registrations :=
    [{ method := "s", interface := "I", handlers := [{ method := "h" }] }] }

def lookupWorkspace : Workspace := { store := Store.empty.run lookupRequests }

theorem lookup_built : lookupWorkspace.store = Store.empty.run lookupRequests := rfl

theorem lookup_solved : ∃ sol w', run {} lookupResolver false lookupWorkspace = .ok sol w' ∧
    sol.reachingWindows.ids 6 = #[1] ∧ sol.solutionListeners.ids 7 = #[1] := by
  have check : (match run {} lookupResolver false lookupWorkspace with
      | .ok sol _ => decide (sol.reachingWindows.ids 6 = #[1] ∧ sol.solutionListeners.ids 7 = #[1])
      | .error _ _ => false) = true := by decide +kernel
  split at check
  case h_1 sol w' solved => exact ⟨sol, w', solved, of_decide_eq_true check⟩
  case h_2 => cases check

theorem lookup_stays : ¬ lookupWorkspace.store.prewired.FlowsTo 1 7 .parameter := by
  have wf : lookupWorkspace.store.prewired.WellFormed :=
    (Store.wellFormed_run lookupRequests).prewired
  have slot : (lookupWorkspace.store.prewired.operand 7 .parameter).toOption = some 4 := by
    decide +kernel
  have stays : flowsInto (lookupWorkspace.store.prewired.reachable 1) 1 4 = false := by
    decide +kernel
  rintro ⟨v, operand, path⟩
  rw [operand] at slot
  cases slot
  have flows := (wf.flowsTo_iff operand (by decide)).2 ⟨4, operand, path⟩
  rw [stays] at flows
  cases flows

/-! ### Exactness -/

section Solved

variable {qs : List StoreRequest} {w w' : Workspace} {rules : Rules} {canceled : Bool}
  {sol : Solution}

/-- Every view map and the window map of a solution is exact. Here `G` is the graph that prewiring
leaves. -/
theorem viewMaps_exact (built : w.store = Store.empty.run qs)
    (solved : run rules r canceled w = .ok sol w') :
    let G := w.store.prewired
    (∃ w₁, prewire w = .ok () w₁ ∧ w₁.store = G) ∧
    (G.nodes = w.store.nodes ∧ ∀ e, e ∈ G.edges ↔ e ∈ w.store.edges ∨
      ∃ b ∈ w.store.windowBindings, ∃ p ∈ b.producers, e = ⟨p, b.root, {}⟩) ∧
    RoleExact G rules.table sol parameterMaps (fun _ o =>
      o.kind.isListener = false ∧ o.kind.signature.has .parameter = true) ∧
    RoleExact G rules.table sol receiverMaps (fun p o =>
      o.kind.signature.has .receiver = true ∧
      (o.kind.signature.scope = .view ∨ o.kind.signature.scope = .menu) ∧
      ¬ (MenuAt G p ∧ o.kind = .setId)) ∧
    ∀ op x, x ∈ sol.reachingWindows.ids op ↔ ∃ n o, G.node? x = some n ∧ n.isWindow = true ∧
      G.operationAt op = some o ∧ o.kind.signature.scope = .window ∧
      o.kind.signature.has .receiver = true ∧ G.FlowsTo x op .receiver ∧
      rules.table.lookup? (n.object?.getD (.other "")) o.kind.name .receiver = some .accept := by
  have wf : w.store.WellFormed := built ▸ Store.wellFormed_run qs
  have wf' := wf.prewired
  have found := mem_ids_of_run wf solved
  refine ⟨prewire_eq_ok wf, wf.edges_prewired, ?_, ?_, ?_⟩
  · exact (HasRolePairs.parameter wf' found).exact wf' (by decide) fun _ _ => Iff.rfl
  · exact (HasRolePairs.receiver wf' found).exact wf' (by decide) takesReceiver_iff
  · intro op x
    exact (found .reachingWindows op x).trans (found_reachingWindows wf')

theorem viewMaps_exact_lookup : ∃ sol w', run {} lookupResolver false lookupWorkspace = .ok sol w' ∧
    1 ∈ sol.reachingWindows.ids 6 ∧ lookupWorkspace.store.prewired.FlowsTo 1 6 .receiver := by
  obtain ⟨sol, w', solved, windows, -⟩ := lookup_solved
  have there : (1 : NodeId) ∈ sol.reachingWindows.ids 6 := by simp [windows]
  obtain ⟨-, -, -, -, exact⟩ := viewMaps_exact lookup_built solved
  obtain ⟨n, o, -, -, -, -, -, flows, -⟩ := (exact 6 1).1 there
  exact ⟨sol, w', solved, there, flows⟩

/-- The listener maps of a solution are exact. -/
theorem listenerMaps_exact (built : w.store = Store.empty.run qs)
    (solved : run rules r canceled w = .ok sol w') :
    let G := w.store.prewired
    (∃ w₁, prewire w = .ok () w₁ ∧ w₁.store = G) ∧
    (∀ op x, x ∈ sol.reachingListeners.ids op ↔
      ∃ o, G.operationAt op = some o ∧ o.kind.isListener = true ∧
        ((ProducerAt G x ∧ G.FlowsTo x op .parameter) ∨
          (∃ n, G.node? x = some n ∧ n.isWindow = true ∧ Linked G.targets x op) ∨
          ∃ n, ListenerAt G r x n ∧ G.FlowsTo x op .parameter)) ∧
    (∀ op x, x ∈ sol.solutionListeners.ids op ↔
      ∃ o, G.operationAt op = some o ∧ o.kind.isListener = true ∧
        (WindowListens G r x op o ∨ ObjectListens G r x op o)) ∧
    (∀ p op, op ∈ sol.reachedListeners.ids p ↔
      (∃ o, G.operationAt p = some o ∧ o.kind.isProducer = true) ∧
        (∃ o, G.operationAt op = some o ∧ o.kind.isListener = true) ∧
        G.FlowsTo p op .parameter) := by
  have wf : w.store.WellFormed := built ▸ Store.wellFormed_run qs
  have wf' := wf.prewired
  have found := mem_ids_of_run wf solved
  refine ⟨prewire_eq_ok wf, fun op x => ?_, fun op x => ?_, fun p op => ?_⟩
  · exact (found .reachingListeners op x).trans (found_reachingListeners wf')
  · exact (found .solutionListeners op x).trans (found_solutionListeners wf')
  · exact (found .reachedListeners p op).trans (found_reachedListeners wf')

theorem listenerMaps_exact_lookup : ∃ sol w',
    run {} lookupResolver false lookupWorkspace = .ok sol w' ∧ 1 ∈ sol.solutionListeners.ids 7 ∧
      ∃ o, lookupWorkspace.store.prewired.operationAt 7 = some o ∧ o.kind.isListener = true ∧
        (WindowListens lookupWorkspace.store.prewired lookupResolver 1 7 o ∨
          ObjectListens lookupWorkspace.store.prewired lookupResolver 1 7 o) := by
  obtain ⟨sol, w', solved, -, listeners⟩ := lookup_solved
  have there : (1 : NodeId) ∈ sol.solutionListeners.ids 7 := by simp [listeners]
  obtain ⟨-, -, exact, -⟩ := listenerMaps_exact lookup_built solved
  exact ⟨sol, w', solved, there, (exact 7 1).1 there⟩

/-- A listener in a solution flows into the listener slot, unless it is a window that listens
because it reaches the registration; such a window is always in the solution. -/
theorem solutionListeners_flow (built : w.store = Store.empty.run qs)
    (solved : run rules r canceled w = .ok sol w') :
    let G := w.store.prewired
    (∃ w₁, prewire w = .ok () w₁ ∧ w₁.store = G) ∧
    ∀ op x,
      (x ∈ sol.solutionListeners.ids op → ∃ o, G.operationAt op = some o ∧
        o.kind.isListener = true ∧ (G.FlowsTo x op .parameter ∨ WindowListens G r x op o)) ∧
      ∀ o, G.operationAt op = some o → o.kind.isListener = true → WindowListens G r x op o →
        x ∈ sol.solutionListeners.ids op := by
  have wf : w.store.WellFormed := built ▸ Store.wellFormed_run qs
  have exact : ∀ op x, x ∈ sol.solutionListeners.ids op ↔ _ := fun op x =>
    (mem_ids_of_run wf solved .solutionListeners op x).trans (found_solutionListeners wf.prewired)
  refine ⟨prewire_eq_ok wf, fun op x => ⟨fun found => ?_, fun o isOp registers listens => ?_⟩⟩
  · obtain ⟨o, isOp, registers, window | ⟨n, -, flows, -⟩⟩ := (exact op x).1 found
    · exact ⟨o, isOp, registers, .inr window⟩
    · exact ⟨o, isOp, registers, .inl flows⟩
  · exact (exact op x).2 ⟨o, isOp, registers, .inl listens⟩

theorem solutionListeners_flow_lookup : ∃ sol w',
    run {} lookupResolver false lookupWorkspace = .ok sol w' ∧ 1 ∈ sol.solutionListeners.ids 7 ∧
      ∃ o, lookupWorkspace.store.prewired.operationAt 7 = some o ∧ o.kind.isListener = true ∧
        (lookupWorkspace.store.prewired.FlowsTo 1 7 .parameter ∨
          WindowListens lookupWorkspace.store.prewired lookupResolver 1 7 o) := by
  obtain ⟨sol, w', solved, -, listeners⟩ := lookup_solved
  have there : (1 : NodeId) ∈ sol.solutionListeners.ids 7 := by simp [listeners]
  obtain ⟨-, exact⟩ := solutionListeners_flow lookup_built solved
  exact ⟨sol, w', solved, there, (exact 7 1).1 there⟩

/-- It is not true that every listener in a solution flows into the listener slot. -/
theorem not_forall_solutionListeners_flow : ¬ ∀ (qs : List StoreRequest) (w w' : Workspace)
    (rules : Rules) (r : Resolver) (canceled : Bool) (sol : Solution),
    w.store = Store.empty.run qs → run rules r canceled w = .ok sol w' →
      ∀ op x, x ∈ sol.solutionListeners.ids op → w.store.prewired.FlowsTo x op .parameter := by
  intro flow
  obtain ⟨sol, w', solved, -, listeners⟩ := lookup_solved
  have there : (1 : NodeId) ∈ sol.solutionListeners.ids 7 := by simp [listeners]
  exact lookup_stays (flow _ _ _ _ _ _ _ lookup_built solved 7 1 there)

end Solved

end Solve

end WidgetFlow
