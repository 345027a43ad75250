import WidgetFlow.Proofs.Solver.Run

/-!
# Graphs that a solve cannot tell apart

While it looks, a solve asks three things of the graph: which nodes supply values, which operations a
supplier reaches, and whether it flows into a role of such an operation. On two graphs that give the
same answers (`Alike`) it finds the same: if exploring the first graph ends, exploring the second one
ends with the same findings (`explore_agrees`).

The proof follows the text of the passes with two runs at once. `Agrees` relates the run of a step on
the first graph to the run of a step on the second. Steps that only look are known from their
contracts already (`Agrees.of_looks`); what is left are the tests that steer the passes.
-/

namespace WidgetFlow

open Work

variable {α β : Type} {G t : Store}

/-! ### Two runs at once -/

/-- If the first step ends on the graph `G`, the second one ends on the graph `t` with a related
answer, and both leave their graphs as they are. -/
def Agrees (G t : Store) (related : α → α → Prop) (step step' : Work α) : Prop :=
  ∀ w w', w.store = G → w'.store = t → ∀ a v, step w = .ok a v →
    v.store = G ∧ ∃ b v', step' w' = .ok b v' ∧ v'.store = t ∧ related a b

namespace Agrees

variable {related : α → α → Prop} {step step' : Work α}

theorem mono {weaker : α → α → Prop} (agrees : Agrees G t related step step')
    (enough : ∀ a b, related a b → weaker a b) : Agrees G t weaker step step' := by
  intro w w' graph graph' a v done
  obtain ⟨kept, b, v', done', kept', answers⟩ := agrees w w' graph graph' a v done
  exact ⟨kept, b, v', done', kept', enough a b answers⟩

/-- Steps that look and do not fail are related by what is known of their answers. -/
theorem of_looks {post post' : α → Prop} (looks : Looks G (fun _ => False) step post)
    (looks' : Looks t (fun _ => False) step' post') :
    Agrees G t (fun a b => post a ∧ post' b) step step' := by
  intro w w' graph graph' a v done
  obtain ⟨kept, answer⟩ := looks.of_ok graph done
  have ends := looks' w' graph'
  cases done' : step' w' with
  | ok b v' =>
    rw [done'] at ends
    exact ⟨kept, b, v', rfl, ends.1, answer, ends.2⟩
  | error e v' =>
    rw [done'] at ends
    exact ends.2.elim

theorem pure {a b : α} (holds : related a b) :
    Agrees G t related (Pure.pure a) (Pure.pure b) := by
  intro w w' graph graph' c v done
  cases done
  exact ⟨graph, b, w', rfl, graph', holds⟩

/-- Nothing is asked of the second run where the first one fails. -/
theorem throw {e : Fault} : Agrees G t related (MonadExcept.throw e) step' := by
  intro w w' graph graph' a v done
  cases done

theorem bind {M : α → α → Prop} {related : β → β → Prop} {next next' : α → Work β}
    (first : Agrees G t M step step')
    (rest : ∀ a b, M a b → Agrees G t related (next a) (next' b)) :
    Agrees G t related (step >>= next) (step' >>= next') := by
  intro w w' graph graph' c u done
  obtain ⟨a, v, ran, done⟩ := bind_eq_ok done
  obtain ⟨kept, b, v', ran', kept', answers⟩ := first w w' graph graph' a v ran
  obtain ⟨kept, d, u', done', kept', answers⟩ := rest a b answers v v' kept kept' c u done
  exact ⟨kept, d, u', (bind_of_ok ran').trans done', kept', answers⟩

theorem ite {c : Prop} [Decidable c] {other other' : Work α} (yes : Agrees G t related step step')
    (no : Agrees G t related other other') :
    Agrees G t related (if c then step else other) (if c then step' else other') := by
  split
  · exact yes
  · exact no

theorem store : Agrees G t (fun s s' => s = G ∧ s' = t) store store :=
  of_looks Looks.store Looks.store

theorem note (n n' : Notice) : Agrees G t (fun _ _ => True) (note n) (note n') :=
  (of_looks (Looks.note n) (Looks.note n')).mono fun _ _ _ => trivial

/-- What a step notes does not matter for what follows. -/
theorem afterNote {n n' : Notice} (agrees : Agrees G t related step step') :
    Agrees G t related (do Work.note n; step) (do Work.note n'; step') :=
  bind (note n n') fun _ _ _ => agrees

theorem foldlM {l : List α} {visit visit' : β → α → Work β}
    (each : ∀ b, ∀ a ∈ l, Agrees G t Eq (visit b a) (visit' b a)) (b : β) :
    Agrees G t Eq (l.foldlM visit b) (l.foldlM visit' b) := by
  induction l generalizing b with
  | nil => exact pure rfl
  | cons a l ih =>
    refine bind (each b a (by simp)) ?_
    rintro c _ rfl
    exact ih (fun b a there => each b a (List.mem_cons_of_mem _ there)) c

theorem pass {index : Nat} {name : String} (agrees : Agrees G t related step step') :
    Agrees G t related (Solve.pass index name step) (Solve.pass index name step') := by
  intro w w' graph graph' a v done
  obtain ⟨w₀, w₁, before, ran, after⟩ := Solve.pass_eq_ok done
  obtain ⟨kept, b, v', ran', kept', answers⟩ :=
    agrees w₀ { w' with journal := .passStarted index 5 name :: w'.journal } (before.trans graph)
      graph' a w₁ ran
  obtain ⟨journal, done'⟩ := Solve.pass_of_ok ran'
  exact ⟨after.trans kept, b, _, done', kept', answers⟩

/-- The same flow is judged in the same way. -/
theorem judge (rules : Rules) (p : NodeId) (object : ObjectKind) (op : NodeId) (kind : String)
    (role : Role) :
    Agrees G t Eq (rules.judge p object op kind role) (rules.judge p object op kind role) := by
  unfold Rules.judge
  split
  · exact pure rfl
  · exact afterNote (ite throw (pure rfl))

end Agrees

/-! ### What is asked of a graph -/

/-- The nodes that values come from, objects and operations, in order of their numbers. -/
def Store.suppliers (s : Store) : List Node := s.nodes.filter fun n => n.isObject || n.isOperation

namespace Solve

/-- Both graphs have the same suppliers, and these reach the same operations and flow into the same
roles of them. -/
structure Alike (G t : Store) : Prop where
  suppliers : t.suppliers = G.suppliers
  operations : ∀ n ∈ G.suppliers,
    operationsIn t (t.reachable n.id) = operationsIn G (G.reachable n.id)
  roles : ∀ n ∈ G.suppliers, ∀ {op : NodeId} {o : Operation} {role : Role},
    G.operationAt op = some o → o.kind.signature.has role = true → role ≠ .result →
    ∃ v, G.operand op role = .ok v ∧ t.operand op role = .ok v ∧
      flowsInto (t.reachable n.id) n.id v = flowsInto (G.reachable n.id) n.id v

theorem isSupplier_of_isProducer {n : Node} (producer : isProducer n = true) :
    (n.isObject || n.isOperation) = true := by
  unfold isProducer at producer
  split at producer
  case h_1 o isOp => simp [Node.isOperation, isOp]
  case h_2 =>
    have allocation := beq_iff_eq.1 (Bool.and_eq_true_iff.1 producer).1
    simp [Node.isObject, allocation, NodeKind.isObject]

theorem isSupplier_of_isObject {n : Node} (object : n.isObject = true) :
    (n.isObject || n.isOperation) = true := by
  rw [object, Bool.true_or]

theorem isSupplier_of_isWindow {n : Node} (window : n.isWindow = true) :
    (n.isObject || n.isOperation) = true := by
  have kind : n.kind = .window := beq_iff_eq.1 window
  refine isSupplier_of_isObject ?_
  rw [Node.isObject, kind]
  rfl

/-- A pass visits suppliers. -/
theorem mem_suppliers {n : Node} {q : Node → Bool}
    (supply : ∀ n, q n = true → (n.isObject || n.isOperation) = true)
    (visited : n ∈ G.nodes.filter q) : n ∈ G.suppliers := by
  obtain ⟨listed, passes⟩ := List.mem_filter.1 visited
  exact List.mem_filter.2 ⟨listed, supply n passes⟩

/-- So it visits the same nodes on graphs with the same suppliers. -/
theorem filter_nodes_eq (same : t.suppliers = G.suppliers) {q : Node → Bool}
    (supply : ∀ n, q n = true → (n.isObject || n.isOperation) = true) :
    t.nodes.filter q = G.nodes.filter q := by
  have among (s : Store) : s.nodes.filter q = s.suppliers.filter q := by
    rw [Store.suppliers, List.filter_filter]
    refine List.filter_congr fun n _ => ?_
    cases visited : q n with
    | true => rw [supply n visited, Bool.true_and]
    | false => rw [Bool.false_and]
  rw [among, among, same]

theorem producers_eq (same : t.suppliers = G.suppliers) : producers t = producers G :=
  filter_nodes_eq same fun _ => isSupplier_of_isProducer

theorem windows_eq (same : t.suppliers = G.suppliers) : t.windows = G.windows :=
  filter_nodes_eq same fun _ => isSupplier_of_isWindow

theorem objects_eq (same : t.suppliers = G.suppliers) : t.objects = G.objects :=
  filter_nodes_eq same fun _ => isSupplier_of_isObject

section Walk

variable (alike : Alike G t) {rules : Rules} {r : Resolver} {n : Node} (supplies : n ∈ G.suppliers)
  {op : OpNode} (there : G.operationAt op.id = some op.op)

include alike supplies there

/-- The slot of a role is the same node, and the supplier flows into it on both graphs or on none. -/
theorem agrees_operandOf {role : Role} (declared : op.op.kind.signature.has role = true)
    (input : role ≠ .result) :
    Agrees G t
      (fun v v' => v = v' ∧
        flowsInto (t.reachable n.id) n.id v' = flowsInto (G.reachable n.id) n.id v)
      (operandOf op.id role) (operandOf op.id role) := by
  obtain ⟨v, operand, operand', same⟩ := alike.roles n supplies there declared input
  refine (Agrees.of_looks (Looks.operandOf operand)
    (Looks.operandOf operand')).mono ?_
  rintro _ _ ⟨rfl, rfl⟩
  exact ⟨rfl, same⟩

theorem agrees_record {m : RoleMaps} (declared : op.op.kind.signature.has m.role = true)
    (input : m.role ≠ .result) (f : Findings) :
    Agrees G t Eq (record rules n (G.reachable n.id) op m f)
      (record rules n (t.reachable n.id) op m f) := by
  refine .bind (agrees_operandOf alike supplies there declared input) ?_
  rintro v _ ⟨rfl, same⟩
  simp only [same]
  refine .ite (.pure rfl) (.ite (.pure rfl) (.bind (.judge _ _ _ _ _ _) ?_))
  rintro valid _ rfl
  exact .pure rfl

theorem agrees_recordListener (registers : op.op.kind.isListener = true) (f : Findings) :
    Agrees G t Eq (recordListener n (G.reachable n.id) op f)
      (recordListener n (t.reachable n.id) op f) := by
  have declared := has_parameter_of_isListener registers
  refine .bind (agrees_operandOf alike supplies there declared (by decide)) ?_
  rintro v _ ⟨rfl, same⟩
  simp only [same]
  exact .ite (.pure rfl) (.pure rfl)

theorem agrees_producerReaches (f : Findings) :
    Agrees G t Eq (producerReaches rules n (G.reachable n.id) f op)
      (producerReaches rules n (t.reachable n.id) f op) := by
  rw [producerReaches_eq, producerReaches_eq]
  refine .bind (M := Eq) ?_ ?_
  · unfold producerParameter
    split
    case isTrue registers => exact agrees_recordListener alike supplies there registers f
    case isFalse =>
      split
      case isTrue declared => exact agrees_record alike supplies there declared (by decide) f
      case isFalse => exact .pure rfl
  · rintro f _ rfl
    unfold producerReceiver
    split
    case isTrue takes =>
      exact agrees_record alike supplies there (has_receiver_of_takesReceiver takes) (by decide) f
    case isFalse => exact .pure rfl

omit alike supplies there in
theorem agrees_confirmListener (f : Findings) (op listener : NodeId) :
    Agrees G t Eq (confirmListener f op listener) (confirmListener f op listener) := by
  refine .bind (.of_looks (Looks.requestWires _ _ _)
    (Looks.requestWires _ _ _)) fun _ _ _ => ?_
  exact .pure rfl

theorem agrees_windowReaches (f : Findings) :
    Agrees G t Eq (windowReaches rules r n (G.reachable n.id) f op)
      (windowReaches rules r n (t.reachable n.id) f op) := by
  refine .bind .store fun _ _ _ => ?_
  split
  case isTrue onWindow =>
    have declared := (Bool.and_eq_true_iff.1 onWindow).2
    refine .bind (agrees_operandOf alike supplies there declared (by decide)) ?_
    rintro v _ ⟨rfl, same⟩
    simp only [same]
    exact .ite (.pure rfl) (.afterNote (.pure rfl))
  case isFalse =>
    exact .ite (.ite (agrees_confirmListener _ _ _) (.pure rfl)) (.afterNote (.pure rfl))

theorem agrees_listenerReaches (f : Findings) :
    Agrees G t Eq (listenerReaches r n (G.reachable n.id) f op)
      (listenerReaches r n (t.reachable n.id) f op) := by
  unfold listenerReaches
  split
  case isTrue => exact .pure rfl
  case isFalse other =>
    have registers : op.op.kind.isListener = true := by simpa using other
    have declared := has_parameter_of_isListener registers
    refine .bind (agrees_operandOf alike supplies there declared (by decide)) ?_
    rintro v _ ⟨rfl, same⟩
    simp only [same]
    exact .ite (.pure rfl) (.ite (agrees_confirmListener _ _ _) (.pure rfl))

end Walk

/-! ### Whole passes -/

/-- The same has been found on both graphs, and each run remembers closures of its own graph. -/
structure SameFindings (G t : Store) (st st' : SolveState) : Prop where
  findings : st.findings = st'.findings
  cache : st.cache.Remembers G
  cache' : st'.cache.Remembers t

theorem sameFindings_start : SameFindings G t {} {} :=
  ⟨rfl, ClosureCache.remembers_empty, ClosureCache.remembers_empty⟩

section Passes

variable (alike : Alike G t) {rules : Rules} {r : Resolver} {st st' : SolveState}

include alike

/-- A pass whose visits agree at every operation agrees. -/
theorem agrees_visitClosures {reach : Node → NodeSet → Findings → OpNode → Work Findings}
    (each : ∀ n ∈ G.suppliers, ∀ op : OpNode, G.operationAt op.id = some op.op → ∀ f,
      Agrees G t Eq (reach n (G.reachable n.id) f op) (reach n (t.reachable n.id) f op))
    {nodes : List Node} (supply : ∀ n ∈ nodes, n ∈ G.suppliers) (same : SameFindings G t st st') :
    Agrees G t (SameFindings G t)
      (visitClosures (fun n closure f => do
        (operationsIn (← store) closure).foldlM (reach n closure) f) nodes st)
      (visitClosures (fun n closure f => do
        (operationsIn (← store) closure).foldlM (reach n closure) f) nodes st') := by
  induction nodes generalizing st st' with
  | nil => exact .pure same
  | cons n nodes ih =>
    have supplies := supply n (by simp)
    refine .bind (.of_looks (Looks.reachableCached same.cache n.id)
      (Looks.reachableCached same.cache' n.id)) ?_
    rintro ⟨_, cache⟩ ⟨_, cache'⟩ ⟨⟨rfl, known⟩, rfl, known'⟩
    refine .bind (M := Eq) ?_ ?_
    · refine .bind .store ?_
      rintro _ _ ⟨here, here'⟩
      rw [here, here', alike.operations n supplies, same.findings]
      exact .foldlM (fun f op met => each n supplies op (mem_operationsIn.1 met).2 f) _
    · rintro f _ rfl
      exact ih (fun n later => supply n (List.mem_cons_of_mem _ later)) ⟨rfl, known, known'⟩

omit alike in
/-- Closures may be asked for in advance. -/
theorem agrees_precompute (same : SameFindings G t st st') (ids : List NodeId) :
    Agrees G t
      (fun cache cache' => SameFindings G t ⟨st.findings, cache⟩ ⟨st'.findings, cache'⟩)
      (precompute st.cache ids) (precompute st'.cache ids) :=
  (Agrees.of_looks (Looks.precompute same.cache ids) (Looks.precompute same.cache' ids)).mono
    fun _ _ known => ⟨same.findings, known.1, known.2⟩

theorem agrees_producerPass (same : SameFindings G t st st') :
    Agrees G t (SameFindings G t) (producerPass rules st) (producerPass rules st') := by
  refine .bind .store ?_
  rintro _ _ ⟨here, here'⟩
  rw [here, here', producers_eq alike.suppliers]
  refine .bind (agrees_precompute same _) fun _ _ same => .afterNote ?_
  exact agrees_visitClosures alike (fun _ supplies _ => agrees_producerReaches alike supplies)
    (fun _ => mem_suppliers fun _ => isSupplier_of_isProducer) same

theorem agrees_windowPass (same : SameFindings G t st st') :
    Agrees G t (SameFindings G t) (windowPass rules r st) (windowPass rules r st') := by
  refine .bind .store ?_
  rintro _ _ ⟨here, here'⟩
  rw [here, here', windows_eq alike.suppliers]
  refine .bind (agrees_precompute same _) fun _ _ same => ?_
  exact agrees_visitClosures alike (fun _ supplies _ => agrees_windowReaches alike supplies)
    (fun _ => mem_suppliers fun _ => isSupplier_of_isWindow) same

theorem agrees_listenerPass (same : SameFindings G t st st') :
    Agrees G t (SameFindings G t) (listenerPass r st) (listenerPass r st') := by
  refine .bind .store ?_
  rintro _ _ ⟨here, here'⟩
  rw [here, here', objects_eq alike.suppliers]
  refine .bind (agrees_precompute same _) fun _ _ same => .afterNote ?_
  refine agrees_visitClosures alike (fun _ supplies _ => agrees_listenerReaches alike supplies) ?_
    same
  intro n visited
  exact mem_suppliers (fun _ => isSupplier_of_isObject) (List.mem_filter.1 visited).1

/-- What exploring finds on one graph it finds on the other. -/
theorem explore_agrees :
    Agrees G t (SameFindings G t) (explore rules r) (explore rules r) := by
  refine .bind (.pass (agrees_producerPass alike sameFindings_start)) fun _ _ same => ?_
  refine .bind (.pass (agrees_windowPass alike same)) fun _ _ same => ?_
  exact .pass (agrees_listenerPass alike same)

end Passes

end Solve

end WidgetFlow
