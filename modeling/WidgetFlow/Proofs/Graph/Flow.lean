import WidgetFlow.Graph.Closure
import WidgetFlow.Proofs.Graph.WellFormed
import WidgetFlow.Proofs.Search

/-!
# Flows in a well-formed graph

What a closure computes is reachability by edges, and what `operand` reads off an operation is the
node that was supplied for the role. Since the edge of an operand leads into its operation, whatever
flows into an operand also reaches the operation: to find the roles that a value may occupy it is
enough to look at the operations of its closure (`linked_of_flowsTo`).

The last part is about the graph in which the root views of bound windows flow into the roots.
-/

namespace WidgetFlow

theorem OpKind.layout_inputs (k : OpKind) :
    ∀ role ∈ k.signature.layout, role ≠ .result ∧ k.signature.has role = true := by
  cases k <;> decide

namespace Store

variable {s : Store}

/-! ### Nodes of a well-formed store -/

theorem WellFormed.id_of_node? (ok : s.WellFormed) {id : NodeId} {n : Node}
    (at_id : s.node? id = some n) : n.id = id := by
  have pos := pos_of_isSome (Option.isSome_iff_exists.2 ⟨n, at_id⟩)
  rw [node?_eq, if_pos pos] at at_id
  obtain ⟨bound, here⟩ := List.getElem?_eq_some_iff.1 at_id
  have number : (s.nodes.map (·.id))[id.toNat - 1]? = some n.id := by
    rw [List.getElem?_map, at_id]
    rfl
  have size : id.toNat - 1 < s.size := by simpa [nodes, Store.size] using bound
  rw [ok.numbered, List.getElem?_map, List.getElem?_range size] at number
  have same : ((id.toNat - 1 : Nat) : Int) + 1 = n.id := Option.some.inj number
  lia

/-- The listed nodes are those that can be looked up by their numbers. -/
theorem WellFormed.mem_nodes_iff (ok : s.WellFormed) {n : Node} :
    n ∈ s.nodes ↔ s.node? n.id = some n := by
  constructor
  · intro there
    obtain ⟨k, bound, here⟩ := List.mem_iff_getElem.1 there
    have at_k : s.nodes[k]? = some n := List.getElem?_eq_some_iff.2 ⟨bound, here⟩
    have known : s.node? ((k : Int) + 1) = some n := by
      have pos : (0 : NodeId) < (k : Int) + 1 := by lia
      rw [node?_eq, if_pos pos, ← at_k]
      congr 1
    rwa [ok.id_of_node? known]
  · intro known
    have pos := pos_of_isSome (Option.isSome_iff_exists.2 ⟨n, known⟩)
    rw [node?_eq, if_pos pos] at known
    exact List.mem_of_getElem? known

/-- Numbers are not given twice. -/
theorem WellFormed.nodup_ids (ok : s.WellFormed) : (s.nodes.map (·.id)).Nodup := by
  rw [ok.numbered]
  refine List.pairwise_map.2 (List.nodup_range.imp fun {a b} other same => other ?_)
  have next : (a : Int) + 1 = (b : Int) + 1 := same
  lia

theorem WellFormed.mem_ids (ok : s.WellFormed) {id : NodeId} (known : (s.node? id).isSome) :
    id ∈ s.nodes.map (·.id) := by
  obtain ⟨n, at_id⟩ := Option.isSome_iff_exists.1 known
  have number := ok.id_of_node? at_id
  exact List.mem_map.2 ⟨n, ok.mem_nodes_iff.2 (number ▸ at_id), number⟩

/-! ### Closures -/

theorem mem_targets_iff {x y : NodeId} : y ∈ s.targets x ↔ ∃ e ∈ s.succs x, e.dst = y := by
  simp [targets]

/-- What a node flows into directly has an edge from it. -/
theorem WellFormed.mem_targets_iff_exists_edge (ok : s.WellFormed) {x y : NodeId} :
    y ∈ s.targets x ↔ ∃ e ∈ s.edges, e.src = x ∧ e.dst = y := by
  rw [mem_targets_iff]
  constructor
  · rintro ⟨e, there, rfl⟩
    obtain rfl := (ok.succEnds there).1
    exact ⟨e, ok.mem_edges_iff.2 there, rfl, rfl⟩
  · rintro ⟨e, there, rfl, rfl⟩
    exact ⟨e, ok.mem_edges_iff.1 there, rfl⟩

theorem WellFormed.isSome_of_mem_targets (ok : s.WellFormed) {x y : NodeId}
    (near : y ∈ s.targets x) : (s.node? y).isSome := by
  obtain ⟨e, there, rfl⟩ := mem_targets_iff.1 near
  exact (ok.succEnds there).2.2

/-- A closure has what is met by following `next`, as long as that does not leave the graph. -/
theorem WellFormed.mem_closure_iff (ok : s.WellFormed) {next : NodeId → List NodeId}
    (inside : ∀ a, ∀ b ∈ next a, (s.node? b).isSome) {x y : NodeId} :
    y ∈ (s.closure next x).ids ↔ Linked next x y := by
  rw [closure, NodeSet.mem_ofList]
  refine mem_expand_iff (fun a b near => ok.mem_ids (inside a b near)) ?_
  rw [ok.numbered, List.length_map, List.length_range]
  exact Nat.lt_succ_self _

/-- The forward closure of a node has what a path of one or more edges leads to. -/
theorem WellFormed.mem_reachable_iff (ok : s.WellFormed) {x y : NodeId} :
    y ∈ (s.reachable x).ids ↔ Linked s.targets x y :=
  ok.mem_closure_iff fun _ _ near => ok.isSome_of_mem_targets near

/-- What flows into a node directly has an edge to it. -/
theorem WellFormed.mem_sources_iff (ok : s.WellFormed) {x y : NodeId} :
    x ∈ s.sources y ↔ ∃ e ∈ s.edges, e.src = x ∧ e.dst = y := by
  have mirrored (e : Edge) : e ∈ s.edges ↔ e ∈ s.preds e.dst := by
    rw [← List.count_pos_iff, ok.indexed, ok.mirrored, List.count_pos_iff]
  simp only [sources, mem_distinct, List.mem_map]
  constructor
  · rintro ⟨e, there, rfl⟩
    obtain rfl := (ok.predEnds there).1
    exact ⟨e, (mirrored e).2 there, rfl, rfl⟩
  · rintro ⟨e, there, rfl, rfl⟩
    exact ⟨e, (mirrored e).1 there, rfl⟩

/-- The backward closure of a node has what a path of one or more edges comes from. -/
theorem WellFormed.mem_reaching_iff (ok : s.WellFormed) {x y : NodeId} :
    y ∈ (s.reaching x).ids ↔ Linked s.sources x y := by
  refine ok.mem_closure_iff fun a b near => ?_
  obtain ⟨e, there, rfl, rfl⟩ := ok.mem_sources_iff.1 near
  exact (ok.hasEnds there).1

/-- `y` is `x`, or a path of one or more edges leads there from `x`. -/
def Flows (s : Store) (x y : NodeId) : Prop := x = y ∨ Linked s.targets x y

/-- A value from `x` may occupy a role of the operation `op`. -/
def FlowsTo (s : Store) (x op : NodeId) (role : Role) : Prop :=
  ∃ v, s.operand op role = .ok v ∧ s.Flows x v

theorem WellFormed.flowsInto_iff (ok : s.WellFormed) {x v : NodeId} (known : (s.node? v).isSome) :
    flowsInto (s.reachable x) x v = true ↔ s.Flows x v := by
  have nonzero : v ≠ 0 := by
    have pos := pos_of_isSome known
    lia
  simp only [flowsInto, Bool.and_eq_true, bne_iff_ne, Bool.or_eq_true, beq_iff_eq, NodeSet.has_iff,
    ok.mem_reachable_iff, Flows, eq_comm (a := v)]
  exact and_iff_right nonzero

/-! ### Operands -/

theorem findIdx?_layout {layout : List Role} {role : Role} {k : Nat}
    (slot : layout.findIdx? (· = role) = some k) : layout[k]? = some role := by
  obtain ⟨bound, here, _⟩ := List.findIdx?_eq_some_iff_getElem.1 slot
  rw [List.getElem?_eq_getElem bound]
  simpa using here

theorem mem_layout_of_has {sig : Signature} {role : Role} (declared : sig.has role)
    (input : role ≠ .result) : role ∈ sig.layout := by
  unfold Signature.has Signature.slot? at declared
  rw [if_neg input] at declared
  obtain ⟨k, slot⟩ := Option.isSome_iff_exists.1 declared
  exact List.mem_of_getElem? (findIdx?_layout slot)

/-- An operation has the node of every role it declares: the one supplied, zero for a result that
was not. -/
theorem Wired.operand {op : NodeId} {o : Operation} {i : Operands} (wired : s.Wired op o i)
    (there : s.operationAt op = some o) {role : Role} (declared : o.kind.signature.has role) :
    s.operand op role = .ok (i.get role) := by
  obtain ⟨n, at_op, isOp⟩ := operationAt_eq_some_iff.1 there
  obtain ⟨e, entry, rfl⟩ := node?_eq_some_iff.1 at_op
  have preds : e.preds = operandEdges op o i := by rw [← wired.preds, Store.preds, entry]
  have succs : e.succs = resultEdges op o i := by rw [← wired.succs, Store.succs, entry]
  obtain ⟨k, slot⟩ := Option.isSome_iff_exists.1 declared
  simp only [Store.operand, entry, isOp, slot, preds, succs]
  by_cases result : role = .result
  · subst result
    unfold resultEdges
    by_cases given : i.result = 0
    · simp [given, Operands.get]
    · simp [given, Operands.get]
  · unfold Signature.slot? at slot
    rw [if_neg result] at slot
    rw [if_neg result, operandEdges, List.getElem?_map, findIdx?_layout slot]
    rfl

/-- Only an operation has operands, and only for the roles it declares. -/
theorem operand_eq_ok {op v : NodeId} {role : Role} (ok : s.operand op role = .ok v) :
    ∃ o, s.operationAt op = some o ∧ o.kind.signature.has role := by
  unfold operand at ok
  split at ok
  case h_1 => cases ok
  case h_2 e entry =>
    split at ok
    case h_1 => cases ok
    case h_2 o isOp =>
      split at ok
      case h_1 => cases ok
      case h_2 k slot =>
        have there : s.node? op = some e.node := node?_eq_some_iff.2 ⟨e, entry, rfl⟩
        refine ⟨o, operationAt_eq_some_iff.2 ⟨e.node, there, isOp⟩, ?_⟩
        rw [Signature.has, slot]
        rfl

/-- The operand in a role of the layout is a plain node, and its edge leads into the operation. -/
theorem WellFormed.operand (wf : s.WellFormed) {op v : NodeId} {role : Role}
    (ok : s.operand op role = .ok v) (input : role ≠ .result) :
    s.isOperand v ∧ op ∈ s.targets v := by
  obtain ⟨o, there, declared⟩ := operand_eq_ok ok
  obtain ⟨i, wired⟩ := wf.wired there
  obtain rfl : i.get role = v := Except.ok.inj ((wired.operand there declared).symm.trans ok)
  have inLayout := mem_layout_of_has declared input
  refine ⟨wired.fits.filled role inLayout, ?_⟩
  -- The edge stands among the predecessors of the operation, so it stands at its source too.
  have atTarget : ⟨i.get role, op, o.site⟩ ∈ s.preds op := by
    rw [wired.preds]
    exact List.mem_map.2 ⟨role, inLayout, rfl⟩
  have mirrored := wf.mirrored ⟨i.get role, op, o.site⟩
  have count : 0 < (s.succs (i.get role)).count ⟨i.get role, op, o.site⟩ := by
    rw [mirrored]
    exact List.count_pos_iff.2 atTarget
  exact mem_targets_iff.2 ⟨_, List.count_pos_iff.1 count, rfl⟩

/-- What flows into an operand reaches the operation. -/
theorem WellFormed.linked_of_flowsTo (wf : s.WellFormed) {x op : NodeId} {role : Role}
    (flows : s.FlowsTo x op role) (input : role ≠ .result) : Linked s.targets x op := by
  obtain ⟨v, ok, path⟩ := flows
  have last := (wf.operand ok input).2
  rcases path with rfl | path
  · exact .step last
  · exact .trans path last

/-- The slot test on an operand says whether a value flows into its role. -/
theorem WellFormed.flowsTo_iff (wf : s.WellFormed) {x op v : NodeId} {role : Role}
    (ok : s.operand op role = .ok v) (input : role ≠ .result) :
    flowsInto (s.reachable x) x v = true ↔ s.FlowsTo x op role := by
  rw [wf.flowsInto_iff (isSome_of_isOperand (wf.operand ok input).1)]
  constructor
  · intro flows
    exact ⟨v, ok, flows⟩
  · rintro ⟨v', ok', flows⟩
    obtain rfl : v = v' := Except.ok.inj (ok.symm.trans ok')
    exact flows

/-- What leads into an operation is one of its operands. -/
theorem WellFormed.operand_of_mem_targets (wf : s.WellFormed) {x op : NodeId} {o : Operation}
    (there : s.operationAt op = some o) (near : op ∈ s.targets x) :
    ∃ role, role ≠ .result ∧ s.operand op role = .ok x := by
  obtain ⟨i, wired⟩ := wf.wired there
  obtain ⟨e, listed, rfl⟩ := mem_targets_iff.1 near
  obtain rfl := (wf.succEnds listed).1
  have atTarget : e ∈ s.preds e.dst := by
    rw [← List.count_pos_iff, ← wf.mirrored]
    exact List.count_pos_iff.2 listed
  rw [wired.preds] at atTarget
  obtain ⟨role, inLayout, same⟩ := List.mem_map.1 atTarget
  obtain ⟨input, declared⟩ := o.kind.layout_inputs role inLayout
  refine ⟨role, input, ?_⟩
  rw [wired.operand there declared]
  exact congrArg (fun e : Edge => Except.ok e.src) same

/-- What reaches an operation flows into one of its roles. -/
theorem WellFormed.exists_flowsTo (wf : s.WellFormed) {x op : NodeId} {o : Operation}
    (there : s.operationAt op = some o) (linked : Linked s.targets x op) :
    ∃ role, role ≠ .result ∧ s.FlowsTo x op role := by
  cases linked with
  | step near =>
    obtain ⟨role, input, operand⟩ := wf.operand_of_mem_targets there near
    exact ⟨role, input, x, operand, .inl rfl⟩
  | trans path near =>
    obtain ⟨role, input, operand⟩ := wf.operand_of_mem_targets there near
    exact ⟨role, input, _, operand, .inr path⟩

/-- Operands stay what they are while a store grows. -/
theorem WellFormed.operand_grow (wf : s.WellFormed) {t : Store} (grows : s.Grows t)
    {op v : NodeId} {role : Role} (operand : s.operand op role = .ok v) :
    t.operand op role = .ok v := by
  obtain ⟨o, there, declared⟩ := operand_eq_ok operand
  obtain ⟨i, wired⟩ := wf.wired there
  rw [(wired.grow there grows).operand (grows.operationAt there) declared, ← operand]
  exact (wired.operand there declared).symm

/-! ### Plain edges -/

/-- The request for an edge. -/
def joinRequest (e : Edge) : StoreRequest := .addEdge e.src e.dst e.site

theorem addEdge_of_plain {e : Edge} (src : s.isOperand e.src) (dst : s.isOperand e.dst) :
    s.addEdge e.src e.dst e.site =
      .ok (if e ∈ s.edges then (false, s) else (true, s.link e)) := by
  split
  case isTrue known => exact addEdge_eq_ok_iff.2 ⟨src, dst, by simp [known], (if_pos known).symm⟩
  case isFalse fresh => exact addEdge_eq_ok_iff.2 ⟨src, dst, by simp [fresh], (if_neg fresh).symm⟩

theorem serve_joinRequest {e : Edge} (src : s.isOperand e.src) (dst : s.isOperand e.dst) :
    s.serve (joinRequest e) = if e ∈ s.edges then s else s.link e := by
  simp only [serve, joinRequest, answer, addEdge_of_plain src dst, Except.map]
  split <;> rfl

theorem windowBindings_link (s : Store) (e : Edge) :
    (s.link e).windowBindings = s.windowBindings := rfl

/-- Joining plain nodes makes no node, binds no window and adds the edges that were not there. -/
theorem run_joinRequests {es : List Edge}
    (plain : ∀ e ∈ es, s.isOperand e.src ∧ s.isOperand e.dst) :
    (s.run (es.map joinRequest)).nodes = s.nodes ∧
      (s.run (es.map joinRequest)).windowBindings = s.windowBindings ∧
      ∀ x, x ∈ (s.run (es.map joinRequest)).edges ↔ x ∈ s.edges ∨ x ∈ es := by
  induction es generalizing s with
  | nil => simp
  | cons e es ih =>
    obtain ⟨src, dst⟩ := plain e (by simp)
    have grows := (serve_step s (joinRequest e)).grows
    have later : ∀ x ∈ es, (s.serve (joinRequest e)).isOperand x.src ∧
        (s.serve (joinRequest e)).isOperand x.dst := by
      intro x h
      obtain ⟨src, dst⟩ := plain x (List.mem_cons_of_mem _ h)
      exact ⟨grows.isOperand src, grows.isOperand dst⟩
    obtain ⟨nodes, bindings, edges⟩ := ih later
    rw [List.map_cons, run_cons]
    rw [serve_joinRequest src dst] at nodes bindings edges ⊢
    by_cases there : e ∈ s.edges
    · rw [if_pos there] at nodes bindings edges ⊢
      refine ⟨nodes, bindings, fun x => ?_⟩
      rw [edges, List.mem_cons]
      constructor
      · exact fun h => h.imp_right .inr
      · rintro (h | rfl | h)
        · exact .inl h
        · exact .inl there
        · exact .inr h
    · rw [if_neg there] at nodes bindings edges ⊢
      refine ⟨by rw [nodes, nodes_link], by rw [bindings, windowBindings_link], fun x => ?_⟩
      rw [edges, edges_link, List.mem_cons, List.mem_cons, or_comm (a := x = e), or_assoc]

/-! ### Root views of bound windows -/

/-- The flows that bound windows ask for, from their root views to their roots. -/
def rootFlows (s : Store) : List Edge :=
  s.windowBindings.flatMap fun b => b.producers.map fun p => ⟨p, b.root, {}⟩

/-- The store in which the root views of every bound window flow into the root of the window. -/
def prewired (s : Store) : Store := s.run (s.rootFlows.map joinRequest)

theorem mem_rootFlows {e : Edge} :
    e ∈ s.rootFlows ↔ ∃ b ∈ s.windowBindings, ∃ p ∈ b.producers, e = ⟨p, b.root, {}⟩ := by
  simp [rootFlows, eq_comm]

theorem WellFormed.rootFlows (ok : s.WellFormed) {e : Edge} (flow : e ∈ s.rootFlows) :
    s.isOperand e.src ∧ s.isOperand e.dst := by
  obtain ⟨b, there, p, collected, rfl⟩ := mem_rootFlows.1 flow
  obtain ⟨_, root, producers, _⟩ := ok.binding there
  exact ⟨producers p collected, root⟩

theorem WellFormed.prewired (ok : s.WellFormed) : s.prewired.WellFormed :=
  run_induction ok (fun _ _ ok step => step.wellFormed ok) _

/-- Prewiring adds no node, and no edge but those from root views to roots. -/
theorem WellFormed.edges_prewired (ok : s.WellFormed) : s.prewired.nodes = s.nodes ∧
    ∀ e, e ∈ s.prewired.edges ↔ e ∈ s.edges ∨
      ∃ b ∈ s.windowBindings, ∃ p ∈ b.producers, e = ⟨p, b.root, {}⟩ := by
  obtain ⟨nodes, -, edges⟩ := run_joinRequests fun _ flow => ok.rootFlows flow
  exact ⟨nodes, fun e => (edges e).trans (or_congr_right mem_rootFlows)⟩

theorem WellFormed.windowBindings_prewired (ok : s.WellFormed) :
    s.prewired.windowBindings = s.windowBindings :=
  (run_joinRequests fun _ flow => ok.rootFlows flow).2.1

/-- Once the flows of bound windows are there, prewiring has nothing to do. -/
theorem WellFormed.prewired_eq_self (ok : s.WellFormed) (there : ∀ e ∈ s.rootFlows, e ∈ s.edges) :
    s.prewired = s := by
  have idle (es : List Edge) (known : ∀ e ∈ es, e ∈ s.rootFlows) :
      s.run (es.map joinRequest) = s := by
    induction es with
    | nil => rfl
    | cons e es ih =>
      have flow := known e (by simp)
      obtain ⟨src, dst⟩ := ok.rootFlows flow
      rw [List.map_cons, run_cons, serve_joinRequest src dst, if_pos (there e flow)]
      exact ih fun x later => known x (List.mem_cons_of_mem _ later)
  exact idle _ fun _ flow => flow

end Store

end WidgetFlow
