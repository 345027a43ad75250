import WidgetFlow.Proofs.Graph.Flow
import WidgetFlow.Proofs.Solver.Recording

/-!
# What the passes of a solve find

A pass visits nodes and, for each of them, the operations of its forward closure. The pairs that one
visit adds are described by a predicate for each pass (`producerPairs`, `windowPairs`,
`listenerPairs`), which speaks of flows in the graph and not of closures or slots. A pass then adds
the pairs of all its visits, and since the closures that it asks for are remembered from the graph
it looks at, it does not matter which pass computed them.
-/

namespace WidgetFlow

namespace Solve

open Work

variable {s : Store} {fails : Fault → Prop}

/-! ### Operations of a closure -/

theorem mem_operationsIn {set : NodeSet} {op : OpNode} :
    op ∈ operationsIn s set ↔ op.id ∈ set.ids ∧ s.operationAt op.id = some op.op := by
  obtain ⟨id, o⟩ := op
  simp only [operationsIn, List.mem_filterMap, Option.map_eq_some_iff, OpNode.mk.injEq]
  constructor
  · rintro ⟨_, there, _, isOp, rfl, rfl⟩
    exact ⟨there, isOp⟩
  · rintro ⟨there, isOp⟩
    exact ⟨id, there, o, isOp, rfl, rfl⟩

theorem exists_operand (wf : s.WellFormed) {op : NodeId} {o : Operation} {role : Role}
    (there : s.operationAt op = some o) (declared : o.kind.signature.has role) :
    ∃ v, s.operand op role = .ok v := by
  obtain ⟨i, wired⟩ := wf.wired there
  exact ⟨_, wired.operand there declared⟩

/-- The listener slot of a registration is its parameter. -/
theorem has_parameter_of_isListener {k : OpKind} (registers : k.isListener = true) :
    k.signature.has .parameter = true := by
  cases k <;> first | rfl | cases registers

/-! ### Producers -/

/-- The table has the object of a node in a role of an operation. -/
def Accepts (t : Classification) (p : Node) (op : OpNode) (role : Role) : Prop :=
  t.lookup? (p.object?.getD (.other "")) op.op.kind.name role = some .accept

/-- A strict solve has met a flow that the table does not list. -/
def Unclassified (rules : Rules) (e : Fault) : Prop :=
  rules.strict = true ∧ ∃ p object op kind role, e = .unclassified p object op kind role

/-- What a producer adds to the maps of a role that it flows into. -/
def rolePairs (s : Store) (t : Classification) (p : Node) (op : OpNode) (m : RoleMaps) : Pairs :=
  fun n k i => s.FlowsTo p.id op.id m.role ∧
    ((n = m.reaching ∧ k = op.id ∧ i = p.id) ∨
      (p.isOperation = true ∧ n = m.reached ∧ k = p.id ∧ i = op.id) ∨
      (p.isOperation = false ∧ Accepts t p op m.role ∧ n = m.solution ∧ k = op.id ∧ i = p.id))

/-- An object is judged, and enters the solution if it is valid. -/
theorem records_judged {rules : Rules} {p : Node} {op : OpNode} {m : RoleMaps} :
    Records s (Unclassified rules)
      (fun f => do
        let valid ← rules.judge p.id (p.object?.getD (.other "")) op.id op.op.kind.name m.role
        return if valid then f.insert m.solution op.id p.id else f)
      fun n k i => Accepts rules.table p op m.role ∧ n = m.solution ∧ k = op.id ∧ i = p.id := by
  refine .after (Looks.judge fun strict _ => ⟨strict, _, _, _, _, _, rfl⟩) fun valid verdict => ?_
  refine .guarded (fun accepted => ?_) fun rejected => ?_
  · simp only [verdict.2 accepted, if_true]
    exact .pair _ _ _
  · simp only [mt verdict.1 rejected]
    exact .nothing

theorem records_record (wf : s.WellFormed) {rules : Rules} {p : Node} {op : OpNode} {m : RoleMaps}
    (there : s.operationAt op.id = some op.op) (declared : op.op.kind.signature.has m.role)
    (input : m.role ≠ .result) :
    Records s (Unclassified rules) (record rules p (s.reachable p.id) op m)
      (rolePairs s rules.table p op m) := by
  obtain ⟨v, operand⟩ := exists_operand wf there declared
  have slot := wf.flowsTo_iff (x := p.id) operand input
  refine .after (Looks.operandOf operand) fun _ same => ?_
  subst same
  refine .guarded (fun flows => ?_) fun stays => ?_
  · simp only [slot.2 flows, Bool.not_true, Bool.false_eq_true, if_false]
    cases isOp : p.isOperation with
    | true =>
      simp only [if_true]
      exact ((Records.pair m.reached p.id op.id).insert m.reaching op.id p.id).congr (by simp)
    | false =>
      simp only [Bool.false_eq_true, if_false]
      exact (records_judged.insert m.reaching op.id p.id).congr (by simp)
  · simp only [mt slot.1 stays, Bool.not_false, if_true]
    exact .nothing

/-- What a producer adds at a registration whose listener slot it flows into. -/
def slotPairs (s : Store) (p : Node) (op : OpNode) : Pairs :=
  fun n k i => s.FlowsTo p.id op.id .parameter ∧
    ((n = .reachingListeners ∧ k = op.id ∧ i = p.id) ∨
      (p.isOperation = true ∧ n = .reachedListeners ∧ k = p.id ∧ i = op.id))

theorem records_recordListener (wf : s.WellFormed) {p : Node} {op : OpNode}
    (there : s.operationAt op.id = some op.op) (registers : op.op.kind.isListener = true) :
    Records s fails (recordListener p (s.reachable p.id) op) (slotPairs s p op) := by
  obtain ⟨v, operand⟩ := exists_operand wf there (has_parameter_of_isListener registers)
  have slot := wf.flowsTo_iff (x := p.id) operand (by decide)
  refine .after (Looks.operandOf operand) fun _ same => ?_
  subst same
  refine .guarded (fun flows => ?_) fun stays => ?_
  · simp only [slot.2 flows, Bool.not_true, Bool.false_eq_true, if_false]
    cases isOp : p.isOperation with
    | true =>
      simp only [if_true]
      exact ((Records.pair .reachedListeners p.id op.id).insert .reachingListeners op.id p.id).congr
        (by simp)
    | false =>
      simp only [Bool.false_eq_true, if_false]
      exact (Records.pair .reachingListeners op.id p.id).congr (by simp)
  · simp only [mt slot.1 stays, Bool.not_false, if_true]
    exact .nothing

/-- What a producer adds at an operation of its closure. -/
def producerPairs (s : Store) (t : Classification) (p : Node) (op : OpNode) : Pairs :=
  fun n k i =>
    (op.op.kind.isListener = true ∧ slotPairs s p op n k i) ∨
    ((op.op.kind.isListener = false ∧ op.op.kind.signature.has .parameter = true) ∧
      rolePairs s t p op parameterMaps n k i) ∨
    (takesReceiver p op.op.kind = true ∧ rolePairs s t p op receiverMaps n k i)

/-- The first half of a producer's visit: the listener slot or the parameter. -/
def producerParameter (rules : Rules) (p : Node) (closure : NodeSet) (op : OpNode) (f : Findings) :
    Work Findings :=
  if op.op.kind.isListener then recordListener p closure op f
  else if op.op.kind.signature.has .parameter then record rules p closure op parameterMaps f
  else pure f

/-- The second half of a producer's visit: the receiver. -/
def producerReceiver (rules : Rules) (p : Node) (closure : NodeSet) (op : OpNode) (f : Findings) :
    Work Findings :=
  if takesReceiver p op.op.kind then record rules p closure op receiverMaps f else pure f

theorem has_receiver_of_takesReceiver {p : Node} {k : OpKind} (takes : takesReceiver p k = true) :
    k.signature.has .receiver = true := by
  simp only [takesReceiver, Bool.and_eq_true] at takes
  exact takes.1.1

/-- The parameter comes first, then the receiver. -/
theorem producerReaches_eq (rules : Rules) (p : Node) (closure : NodeSet) (f : Findings)
    (op : OpNode) :
    producerReaches rules p closure f op =
      producerParameter rules p closure op f >>= producerReceiver rules p closure op := by
  unfold producerReaches producerParameter OpKind.isListener
  by_cases registers : op.op.kind.signature.listener = true
  · rw [if_pos registers, if_pos registers]
    rfl
  · rw [if_neg registers, if_neg registers]
    by_cases declared : op.op.kind.signature.has .parameter = true
    · rw [if_pos declared, if_pos declared]
      rfl
    · rw [if_neg declared, if_neg declared]
      rfl

theorem records_producerParameter (wf : s.WellFormed) {rules : Rules} {p : Node} {op : OpNode}
    (there : s.operationAt op.id = some op.op) :
    Records s (Unclassified rules) (producerParameter rules p (s.reachable p.id) op) fun n k i =>
      (op.op.kind.isListener = true ∧ slotPairs s p op n k i) ∨
      ((op.op.kind.isListener = false ∧ op.op.kind.signature.has .parameter = true) ∧
        rolePairs s rules.table p op parameterMaps n k i) := by
  unfold producerParameter
  cases registers : op.op.kind.isListener with
  | true =>
    simp only [if_true]
    exact (records_recordListener wf there registers).congr (by simp)
  | false =>
    simp only [Bool.false_eq_true, if_false]
    cases declared : op.op.kind.signature.has .parameter with
    | true =>
      simp only [if_true]
      exact (records_record wf there declared (by decide)).congr (by simp)
    | false => exact Records.nothing.congr (by simp)

theorem records_producerReceiver (wf : s.WellFormed) {rules : Rules} {p : Node} {op : OpNode}
    (there : s.operationAt op.id = some op.op) :
    Records s (Unclassified rules) (producerReceiver rules p (s.reachable p.id) op) fun n k i =>
      takesReceiver p op.op.kind = true ∧ rolePairs s rules.table p op receiverMaps n k i := by
  unfold producerReceiver
  refine .guarded (fun takes => ?_) fun leaves => ?_
  · simp only [takes, if_true]
    exact records_record wf there (has_receiver_of_takesReceiver takes) (by decide)
  · simp only [leaves]
    exact .nothing

theorem records_producerReaches (wf : s.WellFormed) {rules : Rules} {p : Node} {op : OpNode}
    (there : s.operationAt op.id = some op.op) :
    Records s (Unclassified rules) (producerReaches rules p (s.reachable p.id) · op)
      (producerPairs s rules.table p op) := by
  simp only [producerReaches_eq]
  refine ((records_producerParameter wf there).andThen (records_producerReceiver wf there)).congr ?_
  simp [producerPairs, or_assoc]

/-! ### Listeners -/

/-- What an object adds at a registration that it reaches: it enters the solution if it fits. -/
def listenerPairs (op x : NodeId) (fits : Prop) : Pairs :=
  fun n k i => (n = .reachingListeners ∧ k = op ∧ i = x) ∨
    (fits ∧ n = .solutionListeners ∧ k = op ∧ i = x)

theorem records_confirmListener (op x : NodeId) :
    Records s fails (confirmListener · op x) fun n k i =>
      n = .solutionListeners ∧ k = op ∧ i = x := by
  have wired : Records s fails (fun f => do requestWires f op x; return f) fun _ _ _ => False :=
    fun f ordered => (Looks.requestWires f op x).bind fun _ _ => Records.nothing f ordered
  exact (wired.insert .solutionListeners op x).congr (by simp)

theorem records_listener (op x : NodeId) (fits : Bool) :
    Records s fails
      (fun f =>
        if fits then confirmListener (f.insert .reachingListeners op x) op x
        else pure (f.insert .reachingListeners op x))
      (listenerPairs op x (fits = true)) := by
  cases fits with
  | true =>
    simp only [if_true]
    exact ((records_confirmListener op x).insert .reachingListeners op x).congr
      (by simp [listenerPairs])
  | false =>
    simp only [Bool.false_eq_true, if_false]
    exact (Records.pair .reachingListeners op x).congr (by simp [listenerPairs])

/-- What an object of a listener type adds at an operation of its closure. -/
def objectPairs (s : Store) (r : Resolver) (l : Node) (op : OpNode) : Pairs :=
  fun n k i => op.op.kind.isListener = true ∧ s.FlowsTo l.id op.id .parameter ∧
    listenerPairs op.id l.id
      (op.op.listener = "" ∨ r.implements l.className op.op.listener = true) n k i

theorem records_listenerReaches (wf : s.WellFormed) {r : Resolver} {l : Node} {op : OpNode}
    (there : s.operationAt op.id = some op.op) :
    Records s fails (listenerReaches r l (s.reachable l.id) · op) (objectPairs s r l op) := by
  unfold listenerReaches
  refine .guarded (fun registers => ?_) fun other => ?_
  · obtain ⟨v, operand⟩ := exists_operand wf there (has_parameter_of_isListener registers)
    have slot := wf.flowsTo_iff (x := l.id) operand (by decide)
    simp only [registers, Bool.not_true, Bool.false_eq_true, if_false]
    refine .after (Looks.operandOf operand) fun _ same => ?_
    rw [same]
    refine .guarded (fun flows => ?_) fun stays => ?_
    · simp only [slot.2 flows, Bool.not_true, Bool.false_eq_true, if_false]
      exact (records_listener op.id l.id _).congr (by simp [listenerPairs])
    · simp only [mt slot.1 stays, Bool.not_false, if_true]
      exact .nothing
  · simp only [other, Bool.not_false, if_true]
    exact .nothing

/-! ### Windows -/

/-- What a window adds at an operation of its closure. At a registration it is enough that the
closure has the operation, through whichever operand. -/
def windowPairs (s : Store) (t : Classification) (r : Resolver) (w : Node) (op : OpNode) : Pairs :=
  fun n k i =>
    ((op.op.kind.signature.scope = .window ∧ op.op.kind.signature.has .receiver = true) ∧
      (s.FlowsTo w.id op.id .receiver ∧ Accepts t w op .receiver) ∧
      n = .reachingWindows ∧ k = op.id ∧ i = w.id) ∨
    (op.op.kind.isListener = true ∧
      listenerPairs op.id w.id (r.implements w.className op.op.listener = true) n k i)

/-- Registrations are not called on windows. -/
theorem scope_of_isListener {k : OpKind} (registers : k.isListener = true) :
    k.signature.scope ≠ .window := by
  cases k <;> first | decide | cases registers

/-- The visit of an operation that is called on windows. -/
theorem records_windowReceiver (wf : s.WellFormed) {rules : Rules} {w : Node} {op : OpNode}
    {n : Notice} (there : s.operationAt op.id = some op.op)
    (declared : op.op.kind.signature.has .receiver = true) :
    Records s fails
      (fun f => do
        let operand ← operandOf op.id .receiver
        let verdict? := rules.table.lookup? (w.object?.getD (.other "")) op.op.kind.name .receiver
        if flowsInto (s.reachable w.id) w.id operand && verdict? = some .accept then
          return f.insert .reachingWindows op.id w.id
        note n
        return f)
      fun n k i => (s.FlowsTo w.id op.id .receiver ∧ Accepts rules.table w op .receiver) ∧
        n = .reachingWindows ∧ k = op.id ∧ i = w.id := by
  obtain ⟨v, operand⟩ := exists_operand wf there declared
  have slot := wf.flowsTo_iff (x := w.id) operand (by decide)
  refine .after (Looks.operandOf operand) fun _ same => ?_
  rw [same]
  have test : (flowsInto (s.reachable w.id) w.id v && decide (rules.table.lookup?
      (w.object?.getD (.other "")) op.op.kind.name .receiver = some .accept)) = true ↔
      s.FlowsTo w.id op.id .receiver ∧ Accepts rules.table w op .receiver := by
    rw [Bool.and_eq_true, slot, decide_eq_true_eq]
    rfl
  refine .guarded (fun valid => ?_) fun invalid => ?_
  · simp only [test.2 valid, if_true]
    exact .pair _ _ _
  · simp only [mt test.1 invalid]
    exact .after (Looks.note _) fun _ _ => .nothing

theorem records_windowReaches (wf : s.WellFormed) {rules : Rules} {r : Resolver} {w : Node}
    {op : OpNode} (there : s.operationAt op.id = some op.op) :
    Records s fails (windowReaches rules r w (s.reachable w.id) · op)
      (windowPairs s rules.table r w op) := by
  refine .after Looks.store fun _ _ => ?_
  by_cases onWindow : op.op.kind.signature.scope = .window ∧
      op.op.kind.signature.has .receiver = true
  · have plain : ¬ op.op.kind.isListener = true := fun registers =>
      scope_of_isListener registers onWindow.1
    simp only [onWindow.1, onWindow.2, decide_true, Bool.and_self, if_true]
    exact (records_windowReceiver wf there onWindow.2).congr
      (by simp [windowPairs, onWindow, plain])
  · have elsewhere : (decide (op.op.kind.signature.scope = .window) &&
        op.op.kind.signature.has .receiver) = false := by
      simpa using onWindow
    simp only [elsewhere, Bool.false_eq_true, if_false]
    by_cases registers : op.op.kind.isListener = true
    · have listener : op.op.kind.signature.listener = true := registers
      simp only [listener, if_true]
      exact (records_listener op.id w.id _).congr (by simp [windowPairs, onWindow, registers])
    · have other : ¬ op.op.kind.signature.listener = true := registers
      simp only [other]
      exact .after (Looks.note _) fun _ _ =>
        Records.nothing.congr (by simp [windowPairs, onWindow, registers])

/-! ### Whole passes -/

/-- What a solve knows while it runs: exactly these pairs, and closures of the graph. -/
structure Knows (s : Store) (known : Pairs) (st : SolveState) : Prop where
  cache : st.cache.Remembers s
  ordered : st.findings.Ordered
  holds : ∀ m k i, st.findings.Holds m k i ↔ known m k i

theorem knows_nothing : Knows s (fun _ _ _ => False) {} where
  cache := ClosureCache.remembers_empty
  ordered := Findings.ordered_empty
  holds _ _ _ := iff_of_false Findings.not_holds_empty id

/-- What is added by visiting nodes and the operations of their closures. -/
def visitPairs (s : Store) (nodes : List Node) (each : Node → OpNode → Pairs) : Pairs :=
  fun m k i => ∃ n ∈ nodes, ∃ op : OpNode,
    Linked s.targets n.id op.id ∧ s.operationAt op.id = some op.op ∧ each n op m k i

variable {reach : Node → NodeSet → Findings → OpNode → Work Findings}
  {each : Node → OpNode → Pairs} {known : Pairs} {st : SolveState}

/-- One visit of a node goes through the operations that the node reaches. -/
theorem records_visit (wf : s.WellFormed) (n : Node)
    (records : ∀ op : OpNode, s.operationAt op.id = some op.op →
      Records s fails (reach n (s.reachable n.id) · op) (each n op)) :
    Records s fails
      (fun f => do
        (operationsIn (← store) (s.reachable n.id)).foldlM (reach n (s.reachable n.id)) f)
      (visitPairs s [n] each) := by
  refine .after Looks.store fun _ same => ?_
  rw [same]
  refine (Records.foldlM fun op there => records op (mem_operationsIn.1 there).2).congr ?_
  intro m k i
  simp [visitPairs, mem_operationsIn, wf.mem_reachable_iff, and_assoc]

theorem looks_visitClosures (wf : s.WellFormed) {nodes : List Node}
    (records : ∀ (n : Node) (op : OpNode), s.operationAt op.id = some op.op →
      Records s fails (reach n (s.reachable n.id) · op) (each n op))
    (knows : Knows s known st) :
    Looks s fails
      (visitClosures (fun n closure f => do
        (operationsIn (← store) closure).foldlM (reach n closure) f) nodes st)
      (Knows s fun m k i => known m k i ∨ visitPairs s nodes each m k i) := by
  induction nodes generalizing st known with
  | nil => exact .pure ⟨knows.cache, knows.ordered, by simp [knows.holds, visitPairs]⟩
  | cons n nodes ih =>
    refine .bind (Looks.reachableCached knows.cache n.id) ?_
    rintro ⟨closure, cache⟩ ⟨rfl, remembers⟩
    refine .bind (records_visit wf n (records n) _ knows.ordered) fun f adds => ?_
    have next : Knows s (fun m k i => known m k i ∨ visitPairs s [n] each m k i) ⟨f, cache⟩ :=
      ⟨remembers, adds.ordered, fun m k i => by rw [adds.holds, knows.holds]⟩
    refine (ih next).mono fun st' done => ⟨done.cache, done.ordered, fun m k i => ?_⟩
    rw [done.holds, or_assoc]
    simp [visitPairs]

/-- The pass of the producers fails only if the rules are strict. -/
theorem looks_producerPass (wf : s.WellFormed) {rules : Rules} (knows : Knows s known st) :
    Looks s (Unclassified rules) (producerPass rules st) (Knows s fun m k i =>
      known m k i ∨ visitPairs s (producers s) (producerPairs s rules.table) m k i) := by
  refine .bind Looks.store fun _ same => ?_
  rw [same]
  refine .bind (Looks.precompute knows.cache _) fun cache remembers => ?_
  refine .bind (Looks.note _) fun _ _ => ?_
  exact looks_visitClosures wf (fun p op there => records_producerReaches wf there)
    ⟨remembers, knows.ordered, knows.holds⟩

/-- The pass of the windows does not fail. -/
theorem looks_windowPass (wf : s.WellFormed) {rules : Rules} {r : Resolver}
    (knows : Knows s known st) :
    Looks s (fun _ => False) (windowPass rules r st) (Knows s fun m k i =>
      known m k i ∨ visitPairs s s.windows (windowPairs s rules.table r) m k i) := by
  refine .bind Looks.store fun _ same => ?_
  rw [same]
  refine .bind (Looks.precompute knows.cache _) fun cache remembers => ?_
  exact looks_visitClosures wf (fun w op there => records_windowReaches wf there)
    ⟨remembers, knows.ordered, knows.holds⟩

/-- The pass of the listener objects does not fail. -/
theorem looks_listenerPass (wf : s.WellFormed) {r : Resolver} (knows : Knows s known st) :
    Looks s (fun _ => False) (listenerPass r st) (Knows s fun m k i =>
      known m k i ∨ visitPairs s (s.objects.filter fun n => r.isListenerType n.className)
        (objectPairs s r) m k i) := by
  refine .bind Looks.store fun _ same => ?_
  rw [same]
  refine .bind (Looks.precompute knows.cache _) fun cache remembers => ?_
  refine .bind (Looks.note _) fun _ _ => ?_
  exact looks_visitClosures wf (fun l op there => records_listenerReaches wf there)
    ⟨remembers, knows.ordered, knows.holds⟩

end Solve

end WidgetFlow
