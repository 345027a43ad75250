import WidgetFlow.Proofs.Graph.Requests

/-!
# The representation of a store

A store keeps an arena of nodes, the edges at both of their ends, an index of all edges, counters,
and the view bindings of windows. `Consistent` is what the first four have in common whatever edges
there are; it survives every new node and every new edge. `WellFormed` adds what only holds between
requests: an operation has the edges of its operands and no others, edges between plain nodes are
not repeated, and bindings name windows and plain nodes. It survives every step, so it holds after
every run (`wellFormed_run`).
-/

namespace WidgetFlow

namespace Store

/-- The size of a graph, counted afresh. -/
def census (s : Store) : GraphStats where
  nodes := s.nodes.length
  edges := (s.entries.flatMap (·.succs)).length
  operations := s.operations.length
  windows := s.windows.length
  synthetic := (s.nodes.filter (·.isSynthetic)).length

/-- Arena, edge lists, edge index and counters tell the same. -/
structure Consistent (s : Store) : Prop where
  /-- The numbers of the nodes are 1, 2, 3 and so on. -/
  numbered : s.nodes.map (·.id) = (List.range s.size).map fun k : Nat => (k : NodeId) + 1
  succEnds : ∀ {id : NodeId} {e : Edge}, e ∈ s.succs id → e.src = id ∧ s.HasEnds e
  predEnds : ∀ {id : NodeId} {e : Edge}, e ∈ s.preds id → e.dst = id ∧ s.HasEnds e
  /-- An edge stands as often at its source as at its target. -/
  mirrored : ∀ e : Edge, (s.succs e.src).count e = (s.preds e.dst).count e
  indexed : ∀ e : Edge, s.edges.count e = (s.succs e.src).count e
  counted : s.stats = s.census

variable {s s' : Store}

theorem HasEnds.grow {e : Edge} (ends : s.HasEnds e) (grows : s.Grows s') : s'.HasEnds e :=
  ⟨grows.isSome ends.1, grows.isSome ends.2⟩

/-! ### New nodes and new edges -/

theorem census_push (s : Store) (b : Node.Body) :
    (s.push b).census = GraphStats.addNode s.census ⟨s.nextId, b⟩ := by
  simp only [census, operations, windows, nodes_push, GraphStats.addNode, List.filter_append]
  simp only [push, List.flatMap_append, List.length_append, List.filter_cons]
  split <;> split <;> split <;> simp_all

theorem Consistent.push (ok : s.Consistent) (b : Node.Body) : (s.push b).Consistent where
  numbered := by
    rw [nodes_push, size_push, List.map_append, ok.numbered, List.range_succ, List.map_append]
    rfl
  succEnds there := by
    rw [succs_push] at there
    exact ⟨(ok.succEnds there).1, (ok.succEnds there).2.grow (.push s b)⟩
  predEnds there := by
    rw [preds_push] at there
    exact ⟨(ok.predEnds there).1, (ok.predEnds there).2.grow (.push s b)⟩
  mirrored e := by rw [succs_push, preds_push, ok.mirrored]
  indexed e := by rw [edges_push, succs_push, ok.indexed]
  counted := by
    rw [census_push, ← ok.counted]
    rfl

/-- Changing one entry changes how many edges all entries have by what it changes there. -/
theorem length_flatMap_modify {l : List Entry} {k : Nat} (bound : k < l.length)
    {f : Entry → Entry} {d : Nat} (more : ∀ x, (f x).succs.length = x.succs.length + d) :
    ((l.modify k f).flatMap (·.succs)).length = (l.flatMap (·.succs)).length + d := by
  induction l generalizing k with
  | nil => cases bound
  | cons x l ih =>
    cases k with
    | zero =>
      simp only [List.modify_zero_cons, List.flatMap_cons, List.length_append, more]
      omega
    | succ k =>
      simp only [List.modify_succ_cons, List.flatMap_cons, List.length_append,
        ih (Nat.lt_of_succ_lt_succ bound)]
      omega

theorem census_link {e : Edge} (ends : s.HasEnds e) :
    (s.link e).census = { s.census with edges := s.census.edges + 1 } := by
  have place {id : NodeId} (known : (s.node? id).isSome) : id.toNat - 1 < s.entries.length := by
    have pos := pos_of_isSome known
    have bound := le_size_of_isSome known
    unfold size at bound
    lia
  have oneMore : ((s.link e).entries.flatMap (·.succs)).length =
      (s.entries.flatMap (·.succs)).length + 1 := by
    have atSrc := length_flatMap_modify (place ends.1) (d := 1)
      (f := fun x => { x with succs := x.succs ++ [e] }) (fun x => by simp)
    rw [← atSrc]
    exact length_flatMap_modify (d := 0) (by simpa [modifyEntry] using place ends.2) (fun _ => rfl)
  simp only [census, operations, windows, nodes_link, oneMore]

theorem Consistent.link (ok : s.Consistent) {e : Edge} (ends : s.HasEnds e) :
    (s.link e).Consistent where
  numbered := by rw [nodes_link, size_link, ok.numbered]
  succEnds {id x} there := by
    rw [succs_link ends] at there
    split at there
    case isFalse => exact ⟨(ok.succEnds there).1, (ok.succEnds there).2.link e⟩
    case isTrue here =>
      rcases List.mem_append.1 there with old | new
      · exact ⟨(ok.succEnds old).1, (ok.succEnds old).2.link e⟩
      · obtain rfl := List.mem_singleton.1 new
        exact ⟨here.symm, ends.link x⟩
  predEnds {id x} there := by
    rw [preds_link ends] at there
    split at there
    case isFalse => exact ⟨(ok.predEnds there).1, (ok.predEnds there).2.link e⟩
    case isTrue here =>
      rcases List.mem_append.1 there with old | new
      · exact ⟨(ok.predEnds old).1, (ok.predEnds old).2.link e⟩
      · obtain rfl := List.mem_singleton.1 new
        exact ⟨here.symm, ends.link x⟩
  mirrored x := by
    have old := ok.mirrored x
    rw [succs_link ends, preds_link ends]
    by_cases new : x = e
    · subst new
      rw [if_pos rfl, if_pos rfl, List.count_append, List.count_append, old]
    · have absent : [e].count x = 0 := List.count_eq_zero.2 (by simpa using new)
      split <;> split <;> simp only [List.count_append, absent, Nat.add_zero, old]
  indexed x := by
    have old := ok.indexed x
    rw [succs_link ends, edges_link]
    by_cases new : x = e
    · subst new
      rw [if_pos rfl, List.count_append, List.count_cons_self, List.count_singleton_self, old]
    · have absent : [e].count x = 0 := List.count_eq_zero.2 (by simpa using new)
      rw [List.count_cons_of_ne (Ne.symm new), old]
      split
      · rw [List.count_append, absent, Nat.add_zero]
      · rfl
  counted := by
    rw [census_link ends, ← ok.counted]
    rfl

theorem Consistent.linkAll (ok : s.Consistent) {es : List Edge} (ends : ∀ e ∈ es, s.HasEnds e) :
    (s.linkAll es).Consistent := by
  induction es generalizing s with
  | nil => exact ok
  | cons e es ih =>
    rw [linkAll_cons]
    exact ih (ok.link (ends e (by simp))) fun x later => (ends x (by simp [later])).link e

/-! ### Operations and bindings -/

/-- The operation `op` has the edges of the operands `i`, in layout order, and of its result. -/
structure Wired (s : Store) (op : NodeId) (o : Operation) (i : Operands) : Prop where
  preds : s.preds op = operandEdges op o i
  succs : s.succs op = resultEdges op o i
  fits : s.Fits o.kind.signature i

/-- A window stands at the number. -/
def IsWindowAt (s : Store) (id : NodeId) : Prop := ∃ n, s.node? id = some n ∧ n.isWindow

/-- What holds of a store between requests. -/
structure WellFormed (s : Store) : Prop extends Consistent s where
  /-- An edge between plain nodes is not repeated. -/
  plainOnce : ∀ {e : Edge}, s.isOperand e.src → s.isOperand e.dst → s.edges.count e ≤ 1
  /-- No edge joins two operations. -/
  apart : ∀ {e : Edge}, e ∈ s.edges → s.isOperand e.src ∨ s.isOperand e.dst
  wired : ∀ {op : NodeId} {o : Operation}, s.operationAt op = some o → ∃ i, s.Wired op o i
  rootKeys : (s.roots.map (·.1)).Nodup
  roots : ∀ {w root : NodeId}, (w, root) ∈ s.roots → s.IsWindowAt w ∧ s.isOperand root
  producerKeys : (s.producers.map (·.1)).Nodup
  producers : ∀ {w : NodeId} {ps : List NodeId}, (w, ps) ∈ s.producers →
    s.IsWindowAt w ∧ ps.Nodup ∧ ∀ p ∈ ps, s.isOperand p

theorem Fits.grow {sig : Signature} {i : Operands} (fits : s.Fits sig i) (grows : s.Grows s') :
    s'.Fits sig i :=
  ⟨fits.declared, fun r inLayout => grows.isOperand (fits.filled r inLayout),
    fun given => grows.isOperand (fits.result given)⟩

/-- A new operation has the edges of its operands. -/
theorem Fits.wired {o : Operation} {i : Operands} (fits : s.Fits o.kind.signature i) :
    ((s.push (.operation o)).linkOperands s.nextId o i).Wired s.nextId o i :=
  have edges := edges_of_operated fits
  ⟨edges.2, edges.1, fits.grow (.operated fits)⟩

theorem Wired.grow {op : NodeId} {o : Operation} {i : Operands} (wired : s.Wired op o i)
    (there : s.operationAt op = some o) (grows : s.Grows s') : s'.Wired op o i :=
  ⟨(grows.fixed there).2.trans wired.preds, (grows.fixed there).1.trans wired.succs,
    wired.fits.grow grows⟩

theorem IsWindowAt.grow {id : NodeId} (there : s.IsWindowAt id) (grows : s.Grows s') :
    s'.IsWindowAt id := by
  obtain ⟨n, at_id, isWindow⟩ := there
  exact ⟨n, grows.node? at_id, isWindow⟩

/-- A node that was there before is a plain one exactly if it was one. -/
theorem Grows.isOperand_iff {id : NodeId} (grows : s.Grows s') (known : (s.node? id).isSome) :
    s'.isOperand id ↔ s.isOperand id := by
  obtain ⟨n, at_id⟩ := Option.isSome_iff_exists.1 known
  simp [Store.isOperand_iff, at_id, grows.node? at_id]

theorem WellFormed.hasEnds (ok : s.WellFormed) {e : Edge} (there : e ∈ s.edges) : s.HasEnds e := by
  have count : 0 < (s.succs e.src).count e := by
    rw [← ok.indexed]
    exact List.count_pos_iff.2 there
  exact (ok.succEnds (List.count_pos_iff.1 count)).2

/-- An older edge whose ends are plain now is not repeated. -/
theorem WellFormed.count_le_one (ok : s.WellFormed) (grows : s.Grows s') {e : Edge}
    (src : s'.isOperand e.src) (dst : s'.isOperand e.dst) : s.edges.count e ≤ 1 := by
  by_cases there : e ∈ s.edges
  · have ends := ok.hasEnds there
    exact ok.plainOnce ((grows.isOperand_iff ends.1).1 src) ((grows.isOperand_iff ends.2).1 dst)
  · rw [List.count_eq_zero.2 there]
    exact Nat.zero_le 1

/-- A binding survives when its window and nodes do. -/
theorem WellFormed.grow_roots (ok : s.WellFormed) (grows : s.Grows s') {w root : NodeId}
    (there : (w, root) ∈ s.roots) : s'.IsWindowAt w ∧ s'.isOperand root :=
  ⟨(ok.roots there).1.grow grows, grows.isOperand (ok.roots there).2⟩

theorem WellFormed.grow_producers (ok : s.WellFormed) (grows : s.Grows s') {w : NodeId}
    {ps : List NodeId} (there : (w, ps) ∈ s.producers) :
    s'.IsWindowAt w ∧ ps.Nodup ∧ ∀ p ∈ ps, s'.isOperand p := by
  obtain ⟨window, once, plain⟩ := ok.producers there
  exact ⟨window.grow grows, once, fun p h => grows.isOperand (plain p h)⟩

/-- A new node that is no operation keeps a store well-formed. -/
theorem WellFormed.push (ok : s.WellFormed) {b : Node.Body}
    (plain : (Node.mk s.nextId b).operation? = none) : (s.push b).WellFormed where
  toConsistent := ok.toConsistent.push b
  plainOnce src dst := ok.count_le_one (.push s b) src dst
  apart there := (ok.apart there).imp (Grows.push s b).isOperand (Grows.push s b).isOperand
  wired {op o} there := by
    have old : s.operationAt op = some o := by
      obtain ⟨n, at_op, isOp⟩ := operationAt_eq_some_iff.1 there
      rw [node?_push] at at_op
      split at at_op
      case isTrue =>
        obtain rfl := Option.some.inj at_op
        rw [plain] at isOp
        cases isOp
      case isFalse => exact operationAt_eq_some_iff.2 ⟨n, at_op, isOp⟩
    obtain ⟨i, wired⟩ := ok.wired old
    exact ⟨i, wired.grow old (.push s b)⟩
  rootKeys := ok.rootKeys
  roots := ok.grow_roots (.push s b)
  producerKeys := ok.producerKeys
  producers := ok.grow_producers (.push s b)

/-- A new edge between plain nodes keeps a store well-formed. -/
theorem WellFormed.link (ok : s.WellFormed) {e : Edge} (src : s.isOperand e.src)
    (dst : s.isOperand e.dst) (fresh : e ∉ s.edges) : (s.link e).WellFormed where
  toConsistent := ok.toConsistent.link ⟨isSome_of_isOperand src, isSome_of_isOperand dst⟩
  plainOnce {x} src' dst' := by
    rw [edges_link]
    by_cases new : x = e
    · subst new
      have once : (x :: s.edges).count x = 1 := by
        rw [List.count_cons_self, List.count_eq_zero.2 fresh]
      exact Nat.le_of_eq once
    · rw [List.count_cons_of_ne (Ne.symm new)]
      exact ok.count_le_one (.joined src dst) src' dst'
  apart {x} there := by
    have grows := Grows.joined src dst
    rcases List.mem_cons.1 there with rfl | old
    · exact .inl (grows.isOperand src)
    · exact (ok.apart old).imp grows.isOperand grows.isOperand
  wired {op o} there := by
    have old : s.operationAt op = some o := by
      unfold operationAt at there ⊢
      rwa [node?_link] at there
    obtain ⟨i, wired⟩ := ok.wired old
    exact ⟨i, wired.grow old (.joined src dst)⟩
  rootKeys := ok.rootKeys
  roots := ok.grow_roots (.joined src dst)
  producerKeys := ok.producerKeys
  producers := ok.grow_producers (.joined src dst)

/-- A new operation with operands that fit keeps a store well-formed. -/
theorem WellFormed.operated (ok : s.WellFormed) {o : Operation} {i : Operands}
    (fits : s.Fits o.kind.signature i) :
    ((s.push (.operation o)).linkOperands s.nextId o i).WellFormed := by
  have grows : s.Grows ((s.push (.operation o)).linkOperands s.nextId o i) := .operated fits
  have new : ((s.push (.operation o)).linkOperands s.nextId o i).node? s.nextId =
      some ⟨s.nextId, .operation o⟩ := by
    rw [node?_operated, if_pos rfl]
  have notPlain : ¬ ((s.push (.operation o)).linkOperands s.nextId o i).isOperand s.nextId := by
    simp [isOperand, new, Node.isOperation, Node.operation?]
  refine
    { toConsistent := ?_, plainOnce := ?_, apart := ?_, wired := ?_
      rootKeys := ?_, roots := ?_, producerKeys := ?_, producers := ?_ }
  · rw [linkOperands_eq]
    exact (ok.toConsistent.push _).linkAll fun _ new => fits.hasEnds new
  · intro e src dst
    have absent : e ∉ operandEdges s.nextId o i ++ resultEdges s.nextId o i := by
      intro isNew
      rcases fits.ends isNew with ⟨_, atNew⟩ | ⟨atNew, _⟩
      · exact notPlain (atNew ▸ dst)
      · exact notPlain (atNew ▸ src)
    rw [count_edges_operated, List.count_eq_zero.2 absent, Nat.zero_add]
    exact ok.count_le_one grows src dst
  · intro e there
    rcases mem_edges_operated s o i |>.1 there with isNew | old
    · exact (fits.ends isNew).imp (fun h => grows.isOperand h.1) (fun h => grows.isOperand h.2)
    · exact (ok.apart old).imp grows.isOperand grows.isOperand
  · intro op o' there
    rw [operationAt_operated] at there
    split at there
    case isTrue isNew =>
      obtain rfl := Option.some.inj there
      exact ⟨i, isNew ▸ fits.wired⟩
    case isFalse =>
      obtain ⟨i', wired⟩ := ok.wired there
      exact ⟨i', wired.grow there grows⟩
  · rw [roots_operated]
    exact ok.rootKeys
  · intro w root there
    rw [roots_operated] at there
    exact ok.grow_roots grows there
  · rw [producers_operated]
    exact ok.producerKeys
  · intro w ps there
    rw [producers_operated] at there
    exact ok.grow_producers grows there

/-! ### Association lists -/

/-- Setting a key adds that row and keeps the others. -/
theorem mem_assign {β : Type} {k w : NodeId} {v x : β} {l : List (NodeId × β)}
    (there : (w, x) ∈ assign k v l) : (w = k ∧ x = v) ∨ (w, x) ∈ l := by
  induction l with
  | nil => exact .inl (by simpa [assign] using there)
  | cons row l ih =>
    obtain ⟨k', v'⟩ := row
    unfold assign at there
    split at there
    · rcases List.mem_cons.1 there with here | old
      · exact .inl (by simpa using here)
      · exact .inr (List.mem_cons_of_mem _ old)
    · rcases List.mem_cons.1 there with here | old
      · exact .inr (by simp [here])
      · exact (ih old).imp_right (List.mem_cons_of_mem _)

theorem mem_keys_assign {β : Type} {k w : NodeId} {v : β} {l : List (NodeId × β)} :
    w ∈ (assign k v l).map (·.1) ↔ w = k ∨ w ∈ l.map (·.1) := by
  induction l with
  | nil => simp [assign]
  | cons row l ih =>
    obtain ⟨k', v'⟩ := row
    unfold assign
    split
    case isTrue same => simp [same]
    case isFalse =>
      rw [List.map_cons, List.mem_cons, ih]
      grind

theorem nodup_keys_assign {β : Type} {k : NodeId} {v : β} {l : List (NodeId × β)}
    (once : (l.map (·.1)).Nodup) : ((assign k v l).map (·.1)).Nodup := by
  induction l with
  | nil => simp [assign]
  | cons row l ih =>
    obtain ⟨k', v'⟩ := row
    obtain ⟨fresh, rest⟩ := List.nodup_cons.1 once
    unfold assign
    split
    case isTrue same =>
      subst same
      exact once
    case isFalse other =>
      refine List.nodup_cons.2 ⟨fun again => ?_, ih rest⟩
      rcases mem_keys_assign.1 again with same | old
      · exact other same
      · exact fresh old

/-! ### Steps and runs -/

theorem mem_producers_of_mem {w p : NodeId} (there : p ∈ s.producersOf w) :
    ∃ ps, (w, ps) ∈ s.producers ∧ s.producersOf w = ps := by
  unfold producersOf at there ⊢
  cases found : s.producers.lookup w with
  | none =>
    rw [found] at there
    cases there
  | some ps =>
    obtain ⟨before, after, split, _⟩ := List.lookup_eq_some_iff.1 found
    exact ⟨ps, by simp [split], rfl⟩

theorem WellFormed.producersOf (ok : s.WellFormed) (w : NodeId) :
    (s.producersOf w).Nodup ∧ ∀ p ∈ s.producersOf w, s.isOperand p := by
  by_cases any : ∃ p, p ∈ s.producersOf w
  · obtain ⟨p, there⟩ := any
    obtain ⟨ps, row, same⟩ := mem_producers_of_mem there
    rw [same]
    exact (ok.producers row).2
  · have none : s.producersOf w = [] := List.eq_nil_iff_forall_not_mem.2 fun p h => any ⟨p, h⟩
    simp [none]

/-- Names and bindings may change while the graph stays, if the new bindings are in order. -/
theorem WellFormed.rebind (ok : s.WellFormed) {keys : List (Entity.Key × NodeId)}
    {roots : List (NodeId × NodeId)} {producers : List (NodeId × List NodeId)}
    (rootKeys : (roots.map (·.1)).Nodup)
    (rooted : ∀ {w root : NodeId}, (w, root) ∈ roots → s.IsWindowAt w ∧ s.isOperand root)
    (producerKeys : (producers.map (·.1)).Nodup)
    (collected : ∀ {w : NodeId} {ps : List NodeId}, (w, ps) ∈ producers →
      s.IsWindowAt w ∧ ps.Nodup ∧ ∀ p ∈ ps, s.isOperand p) :
    WellFormed { s with keys, roots, producers } := by
  have grows : s.Grows { s with keys, roots, producers } :=
    ⟨List.prefix_refl _, fun _ => ⟨rfl, rfl⟩⟩
  refine { ok with
    plainOnce := ok.plainOnce, apart := ok.apart, wired := fun there => ?_, rootKeys
    roots := rooted, producerKeys, producers := collected }
  obtain ⟨i, wired⟩ := ok.wired there
  exact ⟨i, wired.grow there grows⟩

theorem PlainStep.wellFormed (step : PlainStep s s') (ok : s.WellFormed) : s'.WellFormed := by
  cases step with
  | same => exact ok
  | named e fresh =>
    have pushed := ok.push (b := .entity e) rfl
    exact pushed.rebind pushed.rootKeys pushed.roots pushed.producerKeys pushed.producers
  | madeUp => exact ok.push rfl
  | joined e src dst fresh => exact ok.link src dst fresh
  | rooted window root n at_window isWindow plain =>
    refine ok.rebind (nodup_keys_assign ok.rootKeys) (fun there => ?_) ok.producerKeys ok.producers
    rcases mem_assign there with ⟨rfl, rfl⟩ | old
    · exact ⟨⟨n, at_window, isWindow⟩, plain⟩
    · exact ok.roots old
  | collected window producer n at_window isWindow plain fresh =>
    refine ok.rebind ok.rootKeys ok.roots (nodup_keys_assign ok.producerKeys) (fun there => ?_)
    rcases mem_assign there with ⟨rfl, rfl⟩ | old
    · obtain ⟨once, operands⟩ := ok.producersOf _
      refine ⟨⟨n, at_window, isWindow⟩, ?_, ?_⟩
      · rw [List.nodup_append]
        refine ⟨once, by simp, fun a old b new same => fresh ?_⟩
        rw [← List.mem_singleton.1 new, ← same]
        exact old
      · intro p there
        rcases List.mem_append.1 there with old | new
        · exact operands p old
        · rw [List.mem_singleton.1 new]
          exact plain
    · exact ok.producers old

/-- Every step keeps a store well-formed. -/
theorem Step.wellFormed (step : Step s s') (ok : s.WellFormed) : s'.WellFormed := by
  cases step with
  | plain step => exact step.wellFormed ok
  | operated o i fits => exact ok.operated fits

theorem wellFormed_empty : empty.WellFormed := by
  have noEntry (id : NodeId) : empty.entry? id = none := by simp [ entry?, empty]
  have noSuccs (id : NodeId) : empty.succs id = [] := by simp [succs, noEntry]
  have noPreds (id : NodeId) : empty.preds id = [] := by simp [preds, noEntry]
  refine
    { numbered := rfl, counted := rfl, rootKeys := List.nodup_nil, producerKeys := List.nodup_nil
      succEnds := ?_, predEnds := ?_, mirrored := ?_, indexed := ?_
      plainOnce := ?_, apart := ?_, wired := ?_, roots := ?_, producers := ?_ }
  · intro id e there
    simp [noSuccs] at there
  · intro id e there
    simp [noPreds] at there
  · intro e
    rw [noSuccs, noPreds]
  · intro e
    rw [noSuccs]
    rfl
  · intro e _ _
    exact Nat.zero_le 1
  · intro e there
    cases there
  · intro op o there
    simp [operationAt, node?, noEntry] at there
  · intro w root there
    cases there
  · intro w ps there
    cases there

/-- A store is well-formed after every run of requests. -/
theorem wellFormed_run (qs : List StoreRequest) : (empty.run qs).WellFormed :=
  run_induction wellFormed_empty (fun _ _ ok step => step.wellFormed ok) qs

/-! ### How operations came about -/

/-- The request `r` of a run created the operation `op`. -/
def Created (qs : List StoreRequest) (r : OperationRequest) (op : NodeId) : Prop :=
  ∃ earlier later s', qs = earlier ++ .createOperation r :: later ∧
    (empty.run earlier).createOperation r = .ok (op, s')

/-- A created operation keeps the edges of the operands it was created with. -/
theorem Created.wired {qs : List StoreRequest} {r : OperationRequest} {op : NodeId}
    (created : Created qs r op) : ∃ kind, OpKind.ofName? r.kind = some kind ∧
      (empty.run qs).operationAt op = some (r.operation kind) ∧
      (empty.run qs).preds op = operandEdges op (r.operation kind) r.operands ∧
      (empty.run qs).succs op = resultEdges op (r.operation kind) r.operands := by
  obtain ⟨earlier, later, s', rfl, ok⟩ := created
  obtain ⟨kind, known, fits, rfl, rfl⟩ := createOperation_eq_ok_iff.1 ok
  have served : (empty.run earlier).serve (.createOperation r) =
      ((empty.run earlier).push (.operation (r.operation kind))).linkOperands
        (empty.run earlier).nextId (r.operation kind) r.operands := by
    simp only [serve, answer, ok, Except.map]
  rw [run_append, run_cons, served]
  generalize empty.run earlier = s at *
  have grows := run_grows ((s.push (.operation (r.operation kind))).linkOperands s.nextId
    (r.operation kind) r.operands) later
  have there : ((s.push (.operation (r.operation kind))).linkOperands s.nextId
      (r.operation kind) r.operands).operationAt s.nextId = some (r.operation kind) := by
    rw [operationAt_operated, if_pos rfl]
  have wired := (Fits.wired (o := r.operation kind) fits).grow there grows
  exact ⟨kind, known, grows.operationAt there, wired.preds, wired.succs⟩

theorem PlainStep.operationAt (step : PlainStep s s') {op : NodeId} {o : Operation}
    (there : s'.operationAt op = some o) : s.operationAt op = some o := by
  have pushed {b : Node.Body} (plain : (Node.mk s.nextId b).operation? = none)
      (there : (s.push b).operationAt op = some o) : s.operationAt op = some o := by
    unfold Store.operationAt at there ⊢
    rw [node?_push] at there
    split at there
    case isTrue => rw [Option.bind_some, plain] at there; cases there
    case isFalse => exact there
  cases step with
  | named e fresh => exact pushed (b := .entity e) rfl there
  | madeUp => exact pushed rfl there
  | joined e src dst fresh =>
    unfold Store.operationAt at there ⊢
    rwa [node?_link] at there
  | _ => exact there

/-- An operation that a request brings about is the one it asks for. -/
theorem operationAt_serve {q : StoreRequest} {op : NodeId} {o : Operation}
    (there : (s.serve q).operationAt op = some o) :
    s.operationAt op = some o ∨
      ∃ r s', q = .createOperation r ∧ s.createOperation r = .ok (op, s') := by
  unfold serve at there
  split at there
  case h_2 => exact .inl there
  case h_1 s' ok =>
    by_cases creates : ∃ r, q = .createOperation r
    · obtain ⟨r, rfl⟩ := creates
      obtain ⟨new, ok⟩ := map_snd_eq_ok ok
      by_cases isNew : op = new
      · exact .inr ⟨r, s', rfl, isNew ▸ ok⟩
      · obtain ⟨kind, _, _, rfl, rfl⟩ := createOperation_eq_ok_iff.1 ok
        rw [operationAt_operated, if_neg isNew] at there
        exact .inl there
    · exact .inl ((answer_plainStep ok fun r same => creates ⟨r, same⟩).operationAt there)

/-- An operation that is there after a run was there before, or a request of the run created it. -/
theorem operationAt_run {qs : List StoreRequest} {op : NodeId} {o : Operation}
    (there : (s.run qs).operationAt op = some o) : s.operationAt op = some o ∨
      ∃ r earlier later s', qs = earlier ++ .createOperation r :: later ∧
        (s.run earlier).createOperation r = .ok (op, s') := by
  induction qs generalizing s with
  | nil => exact .inl there
  | cons q qs ih =>
    rcases ih there with before | ⟨r, earlier, later, s', rfl, ok⟩
    · rcases operationAt_serve before with before | ⟨r, s', rfl, ok⟩
      · exact .inl before
      · exact .inr ⟨r, [], qs, s', rfl, ok⟩
    · exact .inr ⟨r, q :: earlier, later, s', rfl, ok⟩

/-- Every operation of a store was created by some request of its run. -/
theorem exists_created {qs : List StoreRequest} {op : NodeId} {o : Operation}
    (there : (empty.run qs).operationAt op = some o) : ∃ r, Created qs r op := by
  rcases operationAt_run there with before | ⟨r, earlier, later, s', split, ok⟩
  · simp [operationAt, node?, entry?, empty] at before
  · exact ⟨r, earlier, later, s', split, ok⟩

theorem mem_windowBindings {b : WindowBinding} :
    b ∈ s.windowBindings ↔ (b.window, b.root) ∈ s.roots ∧ b.producers = s.producersOf b.window := by
  obtain ⟨window, root, producers⟩ := b
  simp only [windowBindings, List.mem_mergeSort, List.mem_map, Prod.exists,
    WindowBinding.mk.injEq]
  constructor
  · rintro ⟨w, r, there, rfl, rfl, rfl⟩
    exact ⟨there, rfl⟩
  · rintro ⟨there, rfl⟩
    exact ⟨window, root, there, rfl, rfl, rfl⟩

theorem WellFormed.bindingKeys (ok : s.WellFormed) : (s.windowBindings.map (·.window)).Nodup := by
  let bindings := s.roots.map fun row => WindowBinding.mk row.1 row.2 (s.producersOf row.1)
  have keys : bindings.map (·.window) = s.roots.map (·.1) := by
    simp only [bindings, List.map_map]
    rfl
  have sorted : s.windowBindings.Perm bindings := List.mergeSort_perm bindings _
  rw [(sorted.map (·.window)).nodup_iff, keys]
  exact ok.rootKeys

/-- What a binding names is there: a window, a plain root, and plain producers, each once. -/
theorem WellFormed.binding (ok : s.WellFormed) {b : WindowBinding} (there : b ∈ s.windowBindings) :
    s.IsWindowAt b.window ∧ s.isOperand b.root ∧ (∀ p ∈ b.producers, s.isOperand p) ∧
      b.producers.Nodup := by
  obtain ⟨rooted, collected⟩ := mem_windowBindings.1 there
  obtain ⟨window, plain⟩ := ok.roots rooted
  rw [collected]
  exact ⟨window, plain, (ok.producersOf _).2, (ok.producersOf _).1⟩

theorem WellFormed.mem_edges_iff (ok : s.WellFormed) {e : Edge} :
    e ∈ s.edges ↔ e ∈ s.succs e.src := by
  rw [← List.count_pos_iff, ok.indexed, List.count_pos_iff]

/-- The representation of a store after any run of requests, granted or refused: the numbering of
nodes, the two edge lists, the edge index, the edges of operations, the counters, and the view
bindings. -/
theorem representation_of_run (qs : List StoreRequest) :
    let s := empty.run qs
    -- Nodes are numbered from one, in the order in which they were made.
    (s.nodes.map (·.id) = (List.range s.size).map fun k : Nat => (k : NodeId) + 1) ∧
    (∀ earlier later, qs = earlier ++ later → (empty.run earlier).nodes <+: s.nodes) ∧
    -- Edges have existing ends and stand equally often at both.
    (∀ id, ∀ e ∈ s.succs id, e.src = id ∧ (s.node? e.src).isSome ∧ (s.node? e.dst).isSome) ∧
    (∀ id, ∀ e ∈ s.preds id, e.dst = id ∧ (s.node? e.src).isSome ∧ (s.node? e.dst).isSome) ∧
    (∀ e : Edge, (s.succs e.src).count e = (s.preds e.dst).count e) ∧
    -- The index has the edges that there are; between plain nodes each is there once.
    (∀ e : Edge, e ∈ s.edges ↔ e ∈ s.succs e.src) ∧
    (∀ e ∈ s.edges, s.operationAt e.src = none → s.operationAt e.dst = none →
      (s.succs e.src).count e = 1) ∧
    -- Operations are not joined to each other; they have their operands and at most a result.
    (∀ e ∈ s.edges, s.operationAt e.src = none ∨ s.operationAt e.dst = none) ∧
    (∀ op o, s.operationAt op = some o →
      (s.preds op).length = o.kind.signature.layout.length ∧ ∃ r, Created qs r op) ∧
    (∀ op r, Created qs r op →
      (s.succs op).length = if r.operands.result ≠ 0 then 1 else 0) ∧
    -- The counters say how many there are.
    s.stats = s.census ∧
    -- A window has at most one binding, which names plain nodes and no producer twice; so do the
    -- producers of a window that is not bound yet.
    (s.windowBindings.map (·.window)).Nodup ∧
    (∀ b ∈ s.windowBindings, s.IsWindowAt b.window ∧
      (∃ n, s.node? b.root = some n ∧ n.operation? = none) ∧
      (∀ p ∈ b.producers, ∃ n, s.node? p = some n ∧ n.operation? = none) ∧ b.producers.Nodup) ∧
    (∀ window ps, (window, ps) ∈ s.producers → s.IsWindowAt window ∧
      (∀ p ∈ ps, ∃ n, s.node? p = some n ∧ n.operation? = none) ∧ ps.Nodup) := by
  intro s
  have ok : s.WellFormed := wellFormed_run qs
  have plain {id : NodeId} (known : (s.node? id).isSome) (none : s.operationAt id = none) :
      s.isOperand id := by
    obtain ⟨n, at_id⟩ := Option.isSome_iff_exists.1 known
    refine isOperand_of_node? at_id ?_
    simpa [operationAt, at_id] using none
  refine ⟨ok.numbered, ?_, fun id e there => ok.succEnds there, fun id e there => ok.predEnds there,
    ok.mirrored, fun e => ok.mem_edges_iff, ?_, ?_, ?_, ?_, ok.counted, ok.bindingKeys, ?_, ?_⟩
  · rintro earlier later split
    have same : s = (empty.run earlier).run later := by rw [← run_append, ← split]
    rw [same]
    exact (run_grows _ later).nodes
  · intro e there src dst
    have ends := ok.hasEnds there
    have atMost := ok.plainOnce (plain ends.1 src) (plain ends.2 dst)
    have atLeast := List.count_pos_iff.2 there
    rw [← ok.indexed]
    omega
  · intro e there
    exact (ok.apart there).imp operationAt_of_isOperand operationAt_of_isOperand
  · intro op o there
    obtain ⟨i, wired⟩ := ok.wired there
    refine ⟨?_, exists_created there⟩
    rw [wired.preds]
    exact List.length_map _
  · intro op r created
    obtain ⟨kind, _, _, _, succs⟩ := created.wired
    rw [succs]
    unfold resultEdges
    split <;> rfl
  · intro b there
    obtain ⟨window, root, producers, once⟩ := ok.binding there
    exact ⟨window, isOperand_iff.1 root, fun p h => isOperand_iff.1 (producers p h), once⟩
  · intro window ps there
    obtain ⟨isWindow, once, plain⟩ := ok.producers there
    exact ⟨isWindow, fun p h => isOperand_iff.1 (plain p h), once⟩

end Store

end WidgetFlow
