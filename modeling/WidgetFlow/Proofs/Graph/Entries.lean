import WidgetFlow.Graph.Operands

/-!
# What the primitive changes do to a store

A store changes by `push`, which appends a node without edges, and by `link`, which appends an edge
at both of its ends. Each is described here by what it does to `node?`, `succs` and `preds`, so that
no later proof looks at entries or at positions in a list. The operands of an operation are linked
one after the other; `linkAll` is that fold, and its description is the one of `link` summed up.
-/

namespace WidgetFlow

namespace Store

variable {s : Store}

/-! ### Nodes by number -/

theorem node?_eq (s : Store) (id : NodeId) :
    s.node? id = if 0 < id then s.nodes[id.toNat - 1]? else none := by
  unfold node? entry? nodes
  split <;> simp

theorem node?_eq_some_iff {id : NodeId} {n : Node} :
    s.node? id = some n ↔ ∃ e, s.entry? id = some e ∧ e.node = n := by
  simp [node?]

theorem pos_of_isSome {id : NodeId} (known : (s.node? id).isSome) : 0 < id := by
  rw [node?_eq] at known
  split at known
  case isTrue pos => exact pos
  case isFalse => cases known

theorem le_size_of_isSome {id : NodeId} (known : (s.node? id).isSome) : id ≤ s.size := by
  have pos := pos_of_isSome known
  rw [node?_eq, if_pos pos] at known
  obtain ⟨n, at_id⟩ := Option.isSome_iff_exists.1 known
  obtain ⟨bound, _⟩ := List.getElem?_eq_some_iff.1 at_id
  rw [nodes, List.length_map] at bound
  unfold size
  lia

theorem nextId_ne_of_isSome {id : NodeId} (known : (s.node? id).isSome) : id ≠ s.nextId := by
  have bound := le_size_of_isSome known
  unfold nextId
  lia

theorem isSome_of_isOperand {id : NodeId} (h : s.isOperand id) : (s.node? id).isSome := by
  unfold isOperand at h
  split at h
  case h_1 n at_id => rw [at_id]; rfl
  case h_2 => cases h

theorem isOperand_iff {id : NodeId} :
    s.isOperand id = true ↔ ∃ n, s.node? id = some n ∧ n.operation? = none := by
  unfold isOperand
  cases s.node? id <;> simp [Node.isOperation]

/-- The operation at a number, if an operation stands there. -/
def operationAt (s : Store) (id : NodeId) : Option Operation := (s.node? id).bind (·.operation?)

theorem operationAt_eq_some_iff {id : NodeId} {o : Operation} :
    s.operationAt id = some o ↔ ∃ n, s.node? id = some n ∧ n.operation? = some o := by
  simp [operationAt, Option.bind_eq_some_iff]

/-- A node is an operand or an operation, never both. -/
theorem operationAt_of_isOperand {id : NodeId} (h : s.isOperand id) : s.operationAt id = none := by
  obtain ⟨n, at_id, plain⟩ := isOperand_iff.1 h
  simp [operationAt, at_id, plain]

theorem isSome_of_operationAt {id : NodeId} {o : Operation} (h : s.operationAt id = some o) :
    (s.node? id).isSome := by
  obtain ⟨n, at_id, _⟩ := operationAt_eq_some_iff.1 h
  rw [at_id]
  rfl

theorem isOperand_of_node? {id : NodeId} {n : Node} (at_id : s.node? id = some n)
    (plain : n.operation? = none) : s.isOperand id :=
  isOperand_iff.2 ⟨n, at_id, plain⟩

/-! ### A new node -/

theorem entry?_push (s : Store) (b : Node.Body) (id : NodeId) :
    Store.entry? (s.push b) id =
      if id = s.nextId then some { node := ⟨s.nextId, b⟩ } else s.entry? id := by
  by_cases pos : 0 < id
  · simp only [ entry?, pos, if_true, push, nextId, size]
    by_cases new : id = s.entries.length + 1
    · have place : id.toNat - 1 = s.entries.length := by lia
      rw [if_pos new, place, List.getElem?_append_right (Nat.le_refl _), Nat.sub_self]
      rfl
    · rw [if_neg new]
      by_cases bound : id.toNat - 1 < s.entries.length
      · rw [List.getElem?_append_left bound]
      · have beyond : s.entries.length + 1 ≤ id.toNat - 1 := by lia
        rw [List.getElem?_eq_none (by simpa using beyond), List.getElem?_eq_none (by omega)]
  · have old : id ≠ s.nextId := by unfold nextId; lia
    simp [ entry?, pos, old]

theorem node?_push (s : Store) (b : Node.Body) (id : NodeId) :
    (s.push b).node? id = if id = s.nextId then some ⟨s.nextId, b⟩ else s.node? id := by
  unfold node?
  rw [entry?_push]
  split <;> rfl

@[simp] theorem node?_push_nextId (s : Store) (b : Node.Body) :
    (s.push b).node? s.nextId = some ⟨s.nextId, b⟩ := by
  rw [node?_push, if_pos rfl]

/-- No node has the next number yet. -/
@[simp] theorem entry?_nextId (s : Store) : s.entry? s.nextId = none := by
  have pos : 0 < s.nextId := by unfold nextId; lia
  rw [ entry?, if_pos pos, List.getElem?_eq_none]
  unfold nextId size
  lia

@[simp] theorem succs_push (s : Store) (b : Node.Body) (id : NodeId) :
    (s.push b).succs id = s.succs id := by
  unfold succs
  rw [entry?_push]
  by_cases new : id = s.nextId
  · rw [if_pos new, new, entry?_nextId]
  · rw [if_neg new]

@[simp] theorem preds_push (s : Store) (b : Node.Body) (id : NodeId) :
    (s.push b).preds id = s.preds id := by
  unfold preds
  rw [entry?_push]
  by_cases new : id = s.nextId
  · rw [if_pos new, new, entry?_nextId]
  · rw [if_neg new]

@[simp] theorem edges_push (s : Store) (b : Node.Body) : (s.push b).edges = s.edges := rfl

@[simp] theorem roots_push (s : Store) (b : Node.Body) : (s.push b).roots = s.roots := rfl

@[simp] theorem producers_push (s : Store) (b : Node.Body) :
    (s.push b).producers = s.producers := rfl

@[simp] theorem nodes_push (s : Store) (b : Node.Body) :
    (s.push b).nodes = s.nodes ++ [⟨s.nextId, b⟩] := by
  simp [nodes, push]

@[simp] theorem size_push (s : Store) (b : Node.Body) : (s.push b).size = s.size + 1 := by
  simp [size, push]

/-! ### A new edge -/

theorem entry?_modifyEntry {id : NodeId} (pos : 0 < id) (f : Entry → Entry) (j : NodeId) :
    Store.entry? (s.modifyEntry id f) j = if j = id then (s.entry? j).map f else s.entry? j := by
  by_cases posJ : 0 < j
  · simp only [ entry?, posJ, if_true, modifyEntry, List.getElem?_modify]
    by_cases same : j = id
    · subst same
      simp
    · have apart : id.toNat - 1 ≠ j.toNat - 1 := by lia
      simp [same, apart]
  · simp [ entry?, posJ]

theorem entry?_link {e : Edge} (src : 0 < e.src) (dst : 0 < e.dst) (id : NodeId) :
    Store.entry? (s.link e) id = (s.entry? id).map fun x =>
      { x with
        succs := if id = e.src then x.succs ++ [e] else x.succs
        preds := if id = e.dst then x.preds ++ [e] else x.preds } := by
  have ends : Store.entry? (s.link e) id = Store.entry? ((s.modifyEntry e.src fun x =>
      { x with succs := x.succs ++ [e] }).modifyEntry e.dst fun x =>
        { x with preds := x.preds ++ [e] }) id := rfl
  rw [ends, entry?_modifyEntry dst, entry?_modifyEntry src]
  cases s.entry? id with
  | none => simp
  | some x =>
    simp only [Option.map_some]
    split <;> split <;> rfl

@[simp] theorem nodes_link (s : Store) (e : Edge) : (s.link e).nodes = s.nodes := by
  have kept (l : List Entry) (k : Nat) (f : Entry → Entry) (same : ∀ x, (f x).node = x.node) :
      (l.modify k f).map (·.node) = l.map (·.node) := by
    apply List.ext_getElem?
    intro i
    simp only [List.getElem?_map, List.getElem?_modify]
    cases l[i]? with
    | none => rfl
    | some x => by_cases here : k = i <;> simp [here, same]
  simp only [nodes, link, modifyEntry]
  rw [kept, kept] <;> intro x <;> rfl

@[simp] theorem node?_link (s : Store) (e : Edge) (id : NodeId) :
    (s.link e).node? id = s.node? id := by
  rw [node?_eq, node?_eq, nodes_link]

@[simp] theorem size_link (s : Store) (e : Edge) : (s.link e).size = s.size := by
  simp [size, link, modifyEntry]

@[simp] theorem edges_link (s : Store) (e : Edge) : (s.link e).edges = e :: s.edges := rfl

@[simp] theorem roots_link (s : Store) (e : Edge) : (s.link e).roots = s.roots := rfl

@[simp] theorem producers_link (s : Store) (e : Edge) : (s.link e).producers = s.producers := rfl

/-- Both ends of an edge are nodes. -/
def HasEnds (s : Store) (e : Edge) : Prop := (s.node? e.src).isSome ∧ (s.node? e.dst).isSome

theorem succs_link {e : Edge} (ends : s.HasEnds e) (id : NodeId) :
    (s.link e).succs id = if id = e.src then s.succs id ++ [e] else s.succs id := by
  obtain ⟨src, dst⟩ := ends
  have entry := entry?_link (s := s) (pos_of_isSome src) (pos_of_isSome dst) id
  unfold succs
  rw [entry]
  cases known : s.entry? id with
  | some x => simp
  | none =>
    have other : id ≠ e.src := by
      rintro rfl
      simp [node?, known] at src
    simp [other]

theorem preds_link {e : Edge} (ends : s.HasEnds e) (id : NodeId) :
    (s.link e).preds id = if id = e.dst then s.preds id ++ [e] else s.preds id := by
  obtain ⟨src, dst⟩ := ends
  have entry := entry?_link (s := s) (pos_of_isSome src) (pos_of_isSome dst) id
  unfold preds
  rw [entry]
  cases known : s.entry? id with
  | some x => simp
  | none =>
    have other : id ≠ e.dst := by
      rintro rfl
      simp [node?, known] at dst
    simp [other]

/-! ### Several new edges -/

/-- Appends edges one after the other. -/
def linkAll (s : Store) (es : List Edge) : Store := es.foldl link s

@[simp] theorem linkAll_nil (s : Store) : s.linkAll [] = s := rfl

@[simp] theorem linkAll_cons (s : Store) (e : Edge) (es : List Edge) :
    s.linkAll (e :: es) = (s.link e).linkAll es := rfl

@[simp] theorem nodes_linkAll (s : Store) (es : List Edge) : (s.linkAll es).nodes = s.nodes := by
  induction es generalizing s with
  | nil => rfl
  | cons e es ih => rw [linkAll_cons, ih, nodes_link]

@[simp] theorem node?_linkAll (s : Store) (es : List Edge) (id : NodeId) :
    (s.linkAll es).node? id = s.node? id := by
  rw [node?_eq, node?_eq, nodes_linkAll]

@[simp] theorem edges_linkAll (s : Store) (es : List Edge) :
    (s.linkAll es).edges = es.reverse ++ s.edges := by
  induction es generalizing s with
  | nil => rfl
  | cons e es ih => rw [linkAll_cons, ih, edges_link]; simp

@[simp] theorem roots_linkAll (s : Store) (es : List Edge) : (s.linkAll es).roots = s.roots := by
  induction es generalizing s with
  | nil => rfl
  | cons e es ih => rw [linkAll_cons, ih, roots_link]

@[simp] theorem producers_linkAll (s : Store) (es : List Edge) :
    (s.linkAll es).producers = s.producers := by
  induction es generalizing s with
  | nil => rfl
  | cons e es ih => rw [linkAll_cons, ih, producers_link]

theorem HasEnds.link {e : Edge} (ends : s.HasEnds e) (added : Edge) : (s.link added).HasEnds e := by
  unfold HasEnds at *
  simpa using ends

theorem succs_linkAll {es : List Edge} (ends : ∀ e ∈ es, s.HasEnds e) (id : NodeId) :
    (s.linkAll es).succs id = s.succs id ++ es.filter (·.src = id) := by
  induction es generalizing s with
  | nil => simp
  | cons e es ih =>
    have here := ends e (by simp)
    have later : ∀ e' ∈ es, (s.link e).HasEnds e' := fun e' h => (ends e' (by simp [h])).link e
    rw [linkAll_cons, ih later, succs_link here]
    by_cases atSrc : e.src = id
    · simp [atSrc]
    · simp [atSrc, Ne.symm atSrc]

theorem preds_linkAll {es : List Edge} (ends : ∀ e ∈ es, s.HasEnds e) (id : NodeId) :
    (s.linkAll es).preds id = s.preds id ++ es.filter (·.dst = id) := by
  induction es generalizing s with
  | nil => simp
  | cons e es ih =>
    have here := ends e (by simp)
    have later : ∀ e' ∈ es, (s.link e).HasEnds e' := fun e' h => (ends e' (by simp [h])).link e
    rw [linkAll_cons, ih later, preds_link here]
    by_cases atDst : e.dst = id
    · simp [atDst]
    · simp [atDst, Ne.symm atDst]

/-! ### The edges of an operation -/

/-- The edges from the operands of an operation, in layout order. -/
def operandEdges (op : NodeId) (o : Operation) (i : Operands) : List Edge :=
  o.kind.signature.layout.map fun r => ⟨i.get r, op, o.site⟩

/-- The edge to the result of an operation, if there is one. -/
def resultEdges (op : NodeId) (o : Operation) (i : Operands) : List Edge :=
  if i.result ≠ 0 then [⟨op, i.result, o.site⟩] else []

theorem linkOperands_eq (s : Store) (op : NodeId) (o : Operation) (i : Operands) :
    s.linkOperands op o i = s.linkAll (operandEdges op o i ++ resultEdges op o i) := by
  unfold linkOperands linkAll operandEdges resultEdges
  rw [List.foldl_append, List.foldl_map]
  split <;> rfl

theorem mem_operandEdges_iff {op : NodeId} {o : Operation} {i : Operands} {e : Edge} :
    e ∈ operandEdges op o i ↔ ∃ r ∈ o.kind.signature.layout, e = ⟨i.get r, op, o.site⟩ := by
  simp only [operandEdges, List.mem_map, eq_comm]

theorem mem_resultEdges_iff {op : NodeId} {o : Operation} {i : Operands} {e : Edge} :
    e ∈ resultEdges op o i ↔ i.result ≠ 0 ∧ e = ⟨op, i.result, o.site⟩ := by
  unfold resultEdges
  split <;> simp [*]

/-! ### A new operation

The node of the operation comes last, and its edges are the latest of the graph. -/

section Operated

variable (s : Store) (o : Operation) (i : Operands)

theorem nodes_operated : ((s.push (.operation o)).linkOperands s.nextId o i).nodes =
    s.nodes ++ [⟨s.nextId, .operation o⟩] := by
  rw [linkOperands_eq, nodes_linkAll, nodes_push]

theorem node?_operated (id : NodeId) :
    ((s.push (.operation o)).linkOperands s.nextId o i).node? id =
      if id = s.nextId then some ⟨s.nextId, .operation o⟩ else s.node? id := by
  rw [linkOperands_eq, node?_linkAll, node?_push]

/-- A new operation stands under the next number. -/
theorem operationAt_operated (op : NodeId) :
    ((s.push (.operation o)).linkOperands s.nextId o i).operationAt op =
      if op = s.nextId then some o else s.operationAt op := by
  rw [operationAt, node?_operated]
  split <;> rfl

theorem mem_edges_operated {e : Edge} :
    e ∈ ((s.push (.operation o)).linkOperands s.nextId o i).edges ↔
      e ∈ operandEdges s.nextId o i ++ resultEdges s.nextId o i ∨ e ∈ s.edges := by
  rw [linkOperands_eq, edges_linkAll, edges_push, List.mem_append, List.mem_reverse]

theorem count_edges_operated (e : Edge) :
    ((s.push (.operation o)).linkOperands s.nextId o i).edges.count e =
      (operandEdges s.nextId o i ++ resultEdges s.nextId o i).count e + s.edges.count e := by
  rw [linkOperands_eq, edges_linkAll, edges_push, List.count_append, List.count_reverse]

theorem roots_operated :
    ((s.push (.operation o)).linkOperands s.nextId o i).roots = s.roots := by
  rw [linkOperands_eq, roots_linkAll, roots_push]

theorem producers_operated :
    ((s.push (.operation o)).linkOperands s.nextId o i).producers = s.producers := by
  rw [linkOperands_eq, producers_linkAll, producers_push]

end Operated

end Store

end WidgetFlow
