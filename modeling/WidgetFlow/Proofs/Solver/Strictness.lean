import WidgetFlow.Proofs.Solver.Wiring

/-!
# Strict and lenient solves

The rules of a solve say what becomes of an object flow that the table does not list: lenient rules
drop it, strict rules make it a fault. Strictness has no other effect. The flows that a solve judges
are a list that the prewired graph determines (`judgedFlows`), ordered by producer, operation and
role. A strict step keeps pace with the lenient one up to the first flow of its part of the list that
is not listed, and fails there (`InStep`); without such a flow both do the same, notes included.

So a strict solve blames a flow exactly if there is a gap in the table, it blames the first gap, and
without a gap it is the lenient solve (`strict_exact`).
-/

namespace WidgetFlow

open Work

variable {α β : Type}

/-- The fault blames an object flow that the table does not list. -/
def Fault.BlamesFlow (e : Fault) : Prop :=
  ∃ producer object operation op role, e.cause = .unclassified producer object operation op role

theorem Store.WellFormed.ascending_ids {s : Store} (wf : s.WellFormed) :
    (s.nodes.map (·.id)).Pairwise (· < ·) := by
  rw [wf.numbered]
  refine List.pairwise_map.2 (List.pairwise_lt_range.imp fun {a b} less => ?_)
  show (a : Int) + 1 < (b : Int) + 1
  omega

namespace Solve

variable {G : Store} {t : Classification} {r : Resolver} {w w' : Workspace}

/-! ### Judged flows -/

/-- An object, and the role of an operation that it flows into. -/
structure ObjectFlow where
  producer : NodeId
  object : ObjectKind
  op : OpNode
  role : Role

namespace ObjectFlow

/-- The table has no verdict on the flow. -/
def isUnlisted (t : Classification) (x : ObjectFlow) : Bool :=
  (t.lookup? x.object x.op.op.kind.name x.role).isNone

/-- The fault that blames the flow. -/
def fault (x : ObjectFlow) : Fault :=
  .unclassified x.producer x.object.name x.op.id x.op.op.kind.name x.role.name

/-- One flow is judged before another: by producer, then by operation, and the parameter of an
operation before its receiver. -/
def Before (x y : ObjectFlow) : Prop :=
  x.producer < y.producer ∨ x.producer = y.producer ∧
    (x.op.id < y.op.id ∨ x.op.id = y.op.id ∧ x.role = .parameter ∧ y.role = .receiver)

end ObjectFlow

/-- The flow is judged: an object of a kind that supplies views or menus flows into the parameter of
an operation that is no registration, or into the receiver of an operation on views or menus. Menus
have no ids to set. -/
structure Judged (G : Store) (x : ObjectFlow) : Prop where
  object : AllocationAt G x.producer x.object
  producer : x.object.isProducer = true
  isOp : G.operationAt x.op.id = some x.op.op
  enters : x.role = .parameter ∧ x.op.op.kind.isListener = false ∨
    x.role = .receiver ∧
      (x.op.op.kind.signature.scope = .view ∨ x.op.op.kind.signature.scope = .menu) ∧
      ¬ (x.object.isMenu = true ∧ x.op.op.kind = .setId)
  flows : G.FlowsTo x.producer x.op.id x.role

/-- A judged flow that the table does not list. -/
structure Gap (G : Store) (t : Classification) (x : ObjectFlow) : Prop extends Judged G x where
  unlisted : t.lookup? x.object x.op.op.kind.name x.role = none

/-- The flow is a gap, and every other gap is judged later. -/
def IsFirstGap (G : Store) (t : Classification) (x : ObjectFlow) : Prop :=
  Gap G t x ∧ ∀ y, Gap G t y → y = x ∨ x.Before y

/-- The flow of a producer into one role of an operation, if it gets there and is an object. -/
def roleFlows (G : Store) (p : Node) (op : OpNode) (role : Role) : List ObjectFlow :=
  match G.operand op.id role with
  | .ok v =>
    if flowsInto (G.reachable p.id) p.id v && !p.isOperation then
      [⟨p.id, p.object?.getD (.other ""), op, role⟩]
    else []
  | .error _ => []

/-- The flows that are judged when the parameter of an operation is looked at. -/
def parameterFlows (G : Store) (p : Node) (op : OpNode) : List ObjectFlow :=
  if !op.op.kind.isListener && op.op.kind.signature.has .parameter then roleFlows G p op .parameter
  else []

/-- The flows that are judged when the receiver of an operation is looked at. -/
def receiverFlows (G : Store) (p : Node) (op : OpNode) : List ObjectFlow :=
  if takesReceiver p op.op.kind then roleFlows G p op .receiver else []

/-- The flows that are judged when a producer meets an operation. -/
def visitFlows (G : Store) (p : Node) (op : OpNode) : List ObjectFlow :=
  parameterFlows G p op ++ receiverFlows G p op

/-- The flows that a solve judges, in this order. -/
def judgedFlows (G : Store) : List ObjectFlow :=
  (producers G).flatMap fun p => (operationsIn G (G.reachable p.id)).flatMap (visitFlows G p)

theorem mem_roleFlows {p : Node} {op : OpNode} {role : Role} {x : ObjectFlow} :
    x ∈ roleFlows G p op role ↔
      (∃ v, G.operand op.id role = .ok v ∧ flowsInto (G.reachable p.id) p.id v = true) ∧
        p.isOperation = false ∧ x = ⟨p.id, p.object?.getD (.other ""), op, role⟩ := by
  unfold roleFlows
  cases G.operand op.id role with
  | error e => simp
  | ok v =>
    simp only [List.mem_ite_nil_right, Bool.and_eq_true, Bool.not_eq_true', List.mem_singleton,
      Except.ok.injEq, exists_eq_left', and_assoc]

/-- Only a declared role can be flowed into. -/
theorem has_of_flowsTo {x op : NodeId} {o : Operation} {role : Role}
    (isOp : G.operationAt op = some o) (flows : G.FlowsTo x op role) :
    o.kind.signature.has role = true := by
  obtain ⟨v, operand, -⟩ := flows
  obtain ⟨o', isOp', declared⟩ := Store.operand_eq_ok operand
  cases isOp.symm.trans isOp'
  exact declared

/-- A producer and an operation give a flow for each role that the producer flows into and is judged
at. -/
theorem mem_visitFlows (wf : G.WellFormed) {p : Node} {op : OpNode} {x : ObjectFlow}
    (isOp : G.operationAt op.id = some op.op) :
    x ∈ visitFlows G p op ↔ x = ⟨p.id, p.object?.getD (.other ""), op, x.role⟩ ∧
      p.isOperation = false ∧ G.FlowsTo p.id op.id x.role ∧
      (x.role = .parameter ∧ op.op.kind.isListener = false ∨
        x.role = .receiver ∧ takesReceiver p op.op.kind = true) := by
  have slot {role : Role} (input : role ≠ .result) :
      (∃ v, G.operand op.id role = .ok v ∧ flowsInto (G.reachable p.id) p.id v = true) ↔
        G.FlowsTo p.id op.id role := by
    constructor
    · rintro ⟨v, operand, flows⟩
      exact (wf.flowsTo_iff operand input).1 flows
    · rintro ⟨v, operand, flows⟩
      exact ⟨v, operand, (wf.flowsTo_iff operand input).2 ⟨v, operand, flows⟩⟩
  obtain ⟨producer, object, op', role⟩ := x
  simp only [visitFlows, parameterFlows, receiverFlows, List.mem_append, List.mem_ite_nil_right,
    mem_roleFlows, ObjectFlow.mk.injEq, Bool.and_eq_true, Bool.not_eq_true', and_true]
  constructor
  · rintro (⟨⟨plain, -⟩, flows, object, rfl, rfl, rfl, rfl⟩ | ⟨takes, flows, object, rfl, rfl, rfl, rfl⟩)
    · exact ⟨⟨rfl, rfl, rfl⟩, object, (slot (by decide)).1 flows, .inl ⟨rfl, plain⟩⟩
    · exact ⟨⟨rfl, rfl, rfl⟩, object, (slot (by decide)).1 flows, .inr ⟨rfl, takes⟩⟩
  · rintro ⟨⟨rfl, rfl, rfl⟩, object, flows, ⟨rfl, plain⟩ | ⟨rfl, takes⟩⟩
    · exact .inl ⟨⟨plain, has_of_flowsTo isOp flows⟩, (slot (by decide)).2 flows, object, rfl, rfl, rfl, rfl⟩
    · exact .inr ⟨takes, (slot (by decide)).2 flows, object, rfl, rfl, rfl, rfl⟩

/-- The flows of the list are the flows that are judged. -/
theorem mem_judgedFlows (wf : G.WellFormed) {x : ObjectFlow} : x ∈ judgedFlows G ↔ Judged G x := by
  simp only [judgedFlows, producers, List.mem_flatMap, List.mem_filter, wf.mem_nodes_iff]
  constructor
  · rintro ⟨p, ⟨known, isProd⟩, op, met, visited⟩
    obtain ⟨-, isOp⟩ := mem_operationsIn.1 met
    obtain ⟨same, plain, flows, enters⟩ := (mem_visitFlows wf isOp).1 visited
    obtain ⟨allocation, k, object⟩ := (isOperation_eq_false_iff isProd).1 plain
    rw [object, Option.getD_some] at same
    rw [takesReceiver_iff known isProd] at enters
    rw [same]
    have here : AllocationAt G p.id k := ⟨p, known, allocation, object⟩
    refine ⟨here, ?_, isOp, ?_, flows⟩
    · rcases isProducer_iff.1 isProd with ⟨-, k', object', supplies⟩ | ⟨o, isOp', -⟩
      · cases object.symm.trans object'
        exact supplies
      · simp [Node.isOperation, isOp'] at plain
    · refine enters.imp_right (.imp_right fun takes => ⟨takes.2.1, fun menu => takes.2.2 ?_⟩)
      exact ⟨⟨k, here, menu.1⟩, menu.2⟩
  · intro judged
    obtain ⟨⟨p, known, allocation, object⟩, supplies, isOp, enters, flows⟩ := judged
    obtain same := wf.id_of_node? known
    have isProd : isProducer p = true := isProducer_iff.2 (.inl ⟨allocation, _, object, supplies⟩)
    have linked := wf.linked_of_flowsTo flows (by rcases enters with ⟨h, -⟩ | ⟨h, -⟩ <;> simp [h])
    refine ⟨p, ⟨same ▸ known, isProd⟩, x.op, ?_, ?_⟩
    · rw [mem_operationsIn, same, wf.mem_reachable_iff]
      exact ⟨linked, isOp⟩
    · have plain := (isOperation_eq_false_iff isProd).2 ⟨allocation, _, object⟩
      rw [mem_visitFlows wf isOp, takesReceiver_iff (same ▸ known) isProd, object, same]
      refine ⟨rfl, plain, flows, enters.imp_right fun takes => ⟨takes.1, ?_, takes.2.1, ?_⟩⟩
      · exact has_of_flowsTo isOp (takes.1 ▸ flows)
      · rintro ⟨⟨k, ⟨p', known', -, object'⟩, menu⟩, sets⟩
        cases known.symm.trans known'
        cases object.symm.trans object'
        exact takes.2.2 ⟨menu, sets⟩

/-- The flows of one visit are into different roles, the parameter first. -/
theorem pairwise_visitFlows (p : Node) (op : OpNode) : (visitFlows G p op).Pairwise ObjectFlow.Before := by
  have single (role : Role) : (roleFlows G p op role).Pairwise ObjectFlow.Before := by
    unfold roleFlows
    split
    · split
      · exact List.pairwise_singleton _ _
      · exact List.Pairwise.nil
    · exact List.Pairwise.nil
  have parameter {x : ObjectFlow} (there : x ∈ parameterFlows G p op) :
      x = ⟨p.id, p.object?.getD (.other ""), op, .parameter⟩ := by
    unfold parameterFlows at there
    exact (mem_roleFlows.1 (List.mem_ite_nil_right.1 there).2).2.2
  have receiver {x : ObjectFlow} (there : x ∈ receiverFlows G p op) :
      x = ⟨p.id, p.object?.getD (.other ""), op, .receiver⟩ := by
    unfold receiverFlows at there
    exact (mem_roleFlows.1 (List.mem_ite_nil_right.1 there).2).2.2
  refine List.pairwise_append.2 ⟨?_, ?_, fun x first y second => ?_⟩
  · unfold parameterFlows
    split
    · exact single _
    · exact List.Pairwise.nil
  · unfold receiverFlows
    split
    · exact single _
    · exact List.Pairwise.nil
  · rw [parameter first, receiver second]
    exact .inr ⟨rfl, .inr ⟨rfl, rfl, rfl⟩⟩

/-- The flows of the list are in order. -/
theorem pairwise_judgedFlows (wf : G.WellFormed) : (judgedFlows G).Pairwise ObjectFlow.Before := by
  have byProducer : (producers G).Pairwise (·.id < ·.id) :=
    (List.pairwise_map.1 wf.ascending_ids).filter _
  have byOperation (p : Node) : (operationsIn G (G.reachable p.id)).Pairwise (·.id < ·.id) := by
    refine List.pairwise_filterMap.2 ((NodeSet.pairwise_ofList _).imp fun {a b} less => ?_)
    intro x here y there
    obtain ⟨-, -, rfl⟩ := Option.map_eq_some_iff.1 here
    obtain ⟨-, -, rfl⟩ := Option.map_eq_some_iff.1 there
    exact less
  have visited {p : Node} {op : OpNode} {x : ObjectFlow}
      (met : op ∈ operationsIn G (G.reachable p.id)) (there : x ∈ visitFlows G p op) :
      x.producer = p.id ∧ x.op = op := by
    rw [((mem_visitFlows wf (mem_operationsIn.1 met).2).1 there).1]
    exact ⟨rfl, rfl⟩
  refine List.pairwise_flatMap.2 ⟨fun p _ => List.pairwise_flatMap.2 ⟨fun op met => ?_, ?_⟩, ?_⟩
  · exact pairwise_visitFlows p op
  · refine (byOperation p).imp_of_mem fun {a b} metA metB less x here y there => ?_
    obtain ⟨px, ox⟩ := visited metA here
    obtain ⟨py, oy⟩ := visited metB there
    exact .inr ⟨px.trans py.symm, .inl (ox ▸ oy ▸ less)⟩
  · refine byProducer.imp fun {p q} less x here y there => ?_
    obtain ⟨a, metA, here⟩ := List.mem_flatMap.1 here
    obtain ⟨b, metB, there⟩ := List.mem_flatMap.1 there
    rw [ObjectFlow.Before, (visited metA here).1, (visited metB there).1]
    exact .inl less

/-- The first unlisted flow of the list is the first gap. -/
theorem isFirstGap_of_find? (wf : G.WellFormed) {x : ObjectFlow}
    (found : (judgedFlows G).find? (·.isUnlisted t) = some x) : IsFirstGap G t x := by
  obtain ⟨unlisted, before, after, split, listed⟩ := List.find?_eq_some_iff_append.1 found
  have ordered := pairwise_judgedFlows wf
  rw [split, List.pairwise_append, List.pairwise_cons] at ordered
  have judged : Judged G x := (mem_judgedFlows wf).1 (by simp [split])
  refine ⟨⟨judged, by simpa [ObjectFlow.isUnlisted] using unlisted⟩, fun y gap => ?_⟩
  have there : y ∈ before ++ x :: after := split ▸ (mem_judgedFlows wf).2 gap.toJudged
  rcases List.mem_append.1 there with early | late
  · have verdict := listed y early
    simp [ObjectFlow.isUnlisted, gap.unlisted] at verdict
  · rcases List.mem_cons.1 late with rfl | later
    · exact .inl rfl
    · exact .inr (ordered.2.1.1 y later)

/-- Without an unlisted flow in the list there is no gap. -/
theorem not_gap_of_find? (wf : G.WellFormed)
    (listed : (judgedFlows G).find? (·.isUnlisted t) = none) (x : ObjectFlow) : ¬ Gap G t x := by
  intro gap
  have verdict := List.find?_eq_none.1 listed x ((mem_judgedFlows wf).2 gap.toJudged)
  simp [ObjectFlow.isUnlisted, gap.unlisted] at verdict

/-! ### Two steps that keep pace -/

/-- On the graph `G`, if all the flows `judged` are listed, both steps end alike, leave the graph as
it is, and their answer satisfies `post`; otherwise the strict step fails at the first that is not. -/
def InStep (G : Store) (t : Classification) (judged : List ObjectFlow) (strict lenient : Work α)
    (post : α → Prop) : Prop :=
  ∀ w, w.store = G →
    match judged.find? (·.isUnlisted t) with
    | none => ∃ a w', strict w = .ok a w' ∧ lenient w = .ok a w' ∧ w'.store = G ∧ post a
    | some x => ∃ w', strict w = .error x.fault w'

namespace InStep

variable {judged judged' : List ObjectFlow} {strict lenient : Work α} {post : α → Prop}

/-- A step that does not judge keeps pace with itself. -/
theorem of_looks {step : Work α} (looks : Looks G (fun _ => False) step post) :
    InStep G t [] step step post := by
  intro w graph
  have ends := looks w graph
  cases done : step w with
  | ok a w' =>
    rw [done] at ends
    exact ⟨a, w', rfl, rfl, ends⟩
  | error e w' =>
    rw [done] at ends
    exact ends.2.elim

theorem pure {a : α} (holds : post a) : InStep G t [] (Pure.pure a) (Pure.pure a) post :=
  of_looks (.pure holds)

theorem bind {next next' : α → Work β} {post' : β → Prop}
    (first : InStep G t judged strict lenient post)
    (rest : ∀ a, post a → InStep G t judged' (next a) (next' a) post') :
    InStep G t (judged ++ judged') (strict >>= next) (lenient >>= next') post' := by
  intro w graph
  have start := first w graph
  rw [List.find?_append]
  cases found : judged.find? (·.isUnlisted t) with
  | some x =>
    rw [found] at start
    obtain ⟨w', failed⟩ := start
    exact ⟨w', bind_of_error failed⟩
  | none =>
    rw [found] at start
    obtain ⟨a, w', ran, ran', graph', holds⟩ := start
    rw [Option.none_or, bind_of_ok ran, bind_of_ok ran']
    exact rest a holds w' graph'

/-- Steps that judge nothing first. -/
theorem after {step : Work α} {next next' : α → Work β} {post' : β → Prop}
    (looks : Looks G (fun _ => False) step post)
    (rest : ∀ a, post a → InStep G t judged (next a) (next' a) post') :
    InStep G t judged (step >>= next) (step >>= next') post' :=
  (of_looks looks).bind rest

theorem foldlM {l : List α} {visit visit' : β → α → Work β} {judged : α → List ObjectFlow}
    (each : ∀ b, ∀ a ∈ l, InStep G t (judged a) (visit b a) (visit' b a) fun _ => True) (b : β) :
    InStep G t (l.flatMap judged) (l.foldlM visit b) (l.foldlM visit' b) fun _ => True := by
  induction l generalizing b with
  | nil => exact pure trivial
  | cons a l ih =>
    refine (each b a (by simp)).bind fun c _ => ?_
    exact ih (fun b a there => each b a (List.mem_cons_of_mem _ there)) c

/-- A flow is judged alike, unless the table does not list it. -/
theorem judge (p : NodeId) (object : ObjectKind) (op : OpNode) (role : Role) :
    InStep G t [⟨p, object, op, role⟩]
      (Rules.judge ⟨t, true⟩ p object op.id op.op.kind.name role)
      (Rules.judge ⟨t, false⟩ p object op.id op.op.kind.name role) fun _ => True := by
  intro w graph
  unfold Rules.judge
  cases verdict : t.lookup? object op.op.kind.name role with
  | some v =>
    simp only [List.find?_singleton, ObjectFlow.isUnlisted, verdict, Option.isNone_some,
      Bool.false_eq_true, if_false]
    exact ⟨_, w, rfl, rfl, graph, trivial⟩
  | none =>
    simp only [List.find?_singleton, ObjectFlow.isUnlisted, verdict, Option.isNone_none, if_true]
    exact ⟨_, rfl⟩

end InStep

/-! ### The pass of the producers -/

section Producers

variable {p : Node} {op : OpNode} (wf : G.WellFormed) (isOp : G.operationAt op.id = some op.op)

include wf isOp

/-- A flow into a role is judged if it is there and is the flow of an object. -/
theorem inStep_record {m : RoleMaps} (declared : op.op.kind.signature.has m.role) (f : Findings) :
    InStep G t (roleFlows G p op m.role) (record ⟨t, true⟩ p (G.reachable p.id) op m f)
      (record ⟨t, false⟩ p (G.reachable p.id) op m f) fun _ => True := by
  obtain ⟨v, operand⟩ := exists_operand wf isOp declared
  refine .after (Looks.operandOf operand) fun v' same => ?_
  subst same
  simp only [roleFlows, operand]
  cases flows : flowsInto (G.reachable p.id) p.id v' with
  | false => exact .pure trivial
  | true =>
    cases plain : p.isOperation with
    | true => exact .pure trivial
    | false => exact (InStep.judge _ _ _ _).bind fun valid _ => .pure trivial

theorem inStep_producerParameter (f : Findings) :
    InStep G t (parameterFlows G p op) (producerParameter ⟨t, true⟩ p (G.reachable p.id) op f)
      (producerParameter ⟨t, false⟩ p (G.reachable p.id) op f) fun _ => True := by
  unfold producerParameter parameterFlows
  cases registers : op.op.kind.isListener with
  | true =>
    obtain ⟨v, operand⟩ := exists_operand wf isOp (has_parameter_of_isListener registers)
    refine .after (Looks.operandOf operand) fun v _ => ?_
    cases flowsInto (G.reachable p.id) p.id v with
    | true => exact .pure trivial
    | false => exact .pure trivial
  | false =>
    cases declared : op.op.kind.signature.has .parameter with
    | true => exact inStep_record (m := parameterMaps) wf isOp declared f
    | false => exact .pure trivial

theorem inStep_producerReceiver (f : Findings) :
    InStep G t (receiverFlows G p op) (producerReceiver ⟨t, true⟩ p (G.reachable p.id) op f)
      (producerReceiver ⟨t, false⟩ p (G.reachable p.id) op f) fun _ => True := by
  unfold producerReceiver receiverFlows
  cases takes : takesReceiver p op.op.kind with
  | true => exact inStep_record (m := receiverMaps) wf isOp (has_receiver_of_takesReceiver takes) f
  | false => exact .pure trivial

theorem inStep_producerReaches (f : Findings) :
    InStep G t (visitFlows G p op) (producerReaches ⟨t, true⟩ p (G.reachable p.id) f op)
      (producerReaches ⟨t, false⟩ p (G.reachable p.id) f op) fun _ => True := by
  rw [producerReaches_eq, producerReaches_eq]
  exact (inStep_producerParameter wf isOp f).bind fun g _ => inStep_producerReceiver wf isOp g

end Producers

/-- The closures that are visited are those of the graph, so the flows that are judged are those of
the producers. -/
theorem inStep_visitClosures (wf : G.WellFormed) (ps : List Node) {st : SolveState}
    (remembers : st.cache.Remembers G) :
    InStep G t (ps.flatMap fun p => (operationsIn G (G.reachable p.id)).flatMap (visitFlows G p))
      (visitClosures (fun p closure f => do
        (operationsIn (← store) closure).foldlM (producerReaches ⟨t, true⟩ p closure) f) ps st)
      (visitClosures (fun p closure f => do
        (operationsIn (← store) closure).foldlM (producerReaches ⟨t, false⟩ p closure) f) ps st)
      fun _ => True := by
  induction ps generalizing st with
  | nil => exact .pure trivial
  | cons p ps ih =>
    refine .after (Looks.reachableCached remembers p.id) ?_
    rintro ⟨closure, cache⟩ ⟨rfl, remembers'⟩
    rw [List.flatMap_cons]
    refine InStep.bind ?_ fun f (_ : True) => ih remembers'
    refine .after Looks.store fun graph same => ?_
    rw [same]
    exact .foldlM (fun f op met => inStep_producerReaches wf (mem_operationsIn.1 met).2 f) _

/-- The pass of the producers judges the flows of the list, in this order. -/
theorem inStep_producerPass (wf : G.WellFormed) :
    InStep G t (judgedFlows G) (producerPass ⟨t, true⟩ {}) (producerPass ⟨t, false⟩ {})
      fun _ => True := by
  refine .after Looks.store fun graph same => ?_
  rw [same]
  refine .after (Looks.precompute ClosureCache.remembers_empty _) fun cache remembers => ?_
  refine .after (Looks.note _) fun _ _ => ?_
  exact inStep_visitClosures wf (producers G) remembers

/-! ### Faults beside the judgement of flows -/

/-- The step may fail, but never blames a flow. -/
def BlamesNoFlow (step : Work α) : Prop :=
  Triple (fun _ => True) step (fun _ _ => True) fun e _ => ¬ e.BlamesFlow

theorem not_blamesFlow_internOr {s : Store} {what detail : String} {e? : Option Entity} {e : Fault}
    (refused : s.internOr what detail e? = .error e) : ¬ e.BlamesFlow := by
  unfold Store.internOr at refused
  split at refused
  case h_1 => cases refused
  case h_2 =>
    cases refused
    rintro ⟨_, _, _, _, _, blame⟩
    cases blame

theorem not_blamesFlow_addEdge {s : Store} {src dst : NodeId} {site : Site} {e : Fault}
    (refused : s.addEdge src dst site = .error e) : ¬ e.BlamesFlow := by
  rintro ⟨_, _, _, _, _, blame⟩
  unfold Store.addEdge at refused
  split at refused
  case h_1 =>
    split at refused
    case h_1 => cases refused; cases blame
    case h_2 => cases refused; cases blame
    case h_3 => split at refused <;> cases refused
  case h_2 => cases refused; cases blame

namespace BlamesNoFlow

variable {step : Work α}

theorem pure {a : α} : BlamesNoFlow (Pure.pure a) := Triple.pure fun _ _ => trivial

theorem throw {e : Fault} (blameless : ¬ e.BlamesFlow) :
    BlamesNoFlow (MonadExcept.throw e : Work α) := Triple.throw fun _ _ => blameless

theorem bind {next : α → Work β} (first : BlamesNoFlow step) (rest : ∀ a, BlamesNoFlow (next a)) :
    BlamesNoFlow (step >>= next) := Triple.bind first rest

theorem ite {c : Prop} [Decidable c] {step' : Work α} (yes : BlamesNoFlow step)
    (no : BlamesNoFlow step') : BlamesNoFlow (if c then step else step') :=
  Triple.ite (fun _ => yes) fun _ => no

theorem forM {l : List α} {step : α → Work PUnit} (each : ∀ a, BlamesNoFlow (step a)) :
    BlamesNoFlow (l.forM step) :=
  Triple.forM (I := fun _ _ => True) fun _ a _ _ => each a

/-- A step that ends blames nothing. -/
theorem of_ends (ends : ∀ w, ∃ a w', step w = .ok a w') : BlamesNoFlow step := by
  intro w _
  obtain ⟨a, w', ran⟩ := ends w
  rw [ran]
  trivial

theorem modify (change : Workspace → Workspace) : BlamesNoFlow (modify change) :=
  of_ends fun w => ⟨⟨⟩, change w, rfl⟩

theorem store : BlamesNoFlow store := of_ends fun w => ⟨_, w, rfl⟩

theorem onStore {f : Store → Except Fault (α × Store)}
    (blameless : ∀ s e, f s = .error e → ¬ e.BlamesFlow) : BlamesNoFlow (onStore f) :=
  Triple.onStore (fun _ _ _ _ _ => trivial) fun w e _ refused => blameless w.store e refused

theorem edgeToLocal (src : NodeId) (l : Local) (site : Site) :
    BlamesNoFlow (Dispatch.edgeToLocal src l site) := by
  refine .bind (.onStore fun s e => not_blamesFlow_internOr) fun dst => .bind ?_ fun added => ?_
  · exact Triple.within (onStore fun s e refused => not_blamesFlow_addEdge refused)
  · exact .ite (.modify _) .pure

theorem connect (t : Target) (listener view : NodeId) (site : Site) :
    BlamesNoFlow (Dispatch.connect t listener view site) := by
  refine .ite (.bind (edgeToLocal _ _ _) fun _ => ?_) ?_
  -- With and without a listener, the view is passed on in the same way.
  all_goals
    split
    case h_1 => exact .ite (edgeToLocal _ _ _) .pure
    case h_2 => exact .pure

theorem registration (r : Resolver) (op : NodeId) : BlamesNoFlow (Dispatch.registration r op) := by
  refine .bind .store fun s => ?_
  split
  case h_1 => exact .throw fun ⟨_, _, _, _, _, blame⟩ => nomatch blame
  case h_2 =>
    split
    case h_1 => exact .pure
    case h_2 => exact .throw fun ⟨_, _, _, _, _, blame⟩ => nomatch blame

theorem reportUnresolved (c : String) (methods : List String) :
    BlamesNoFlow (Dispatch.reportUnresolved c methods) :=
  .ite (.bind (.modify _) fun _ => .modify _) .pure

theorem wireClass (r : Resolver) (reg : Registration) (listener view : NodeId) (site : Site)
    (c : String) : BlamesNoFlow (Dispatch.wireClass r reg listener view site c) :=
  .bind (reportUnresolved _ _) fun _ => .forM fun t => connect t listener view site

theorem listenerClasses (r : Resolver) (listener : NodeId) (interface bound : String) :
    BlamesNoFlow (Dispatch.listenerClasses r listener interface bound) :=
  .ite .pure (.bind (.bind (.modify _) fun _ => .bind .store fun _ => .pure) fun _ =>
    .bind .store fun _ => .pure)

theorem resolveDeferred (r : Resolver) (task : DispatchTask) :
    BlamesNoFlow (Dispatch.resolveDeferred r task) := by
  refine .bind (registration r task.op) fun reg => .bind (listenerClasses _ _ _ _) fun found => ?_
  refine .ite (reportUnresolved _ _) (.bind ?_ fun _ => .modify _)
  exact .forM fun c => wireClass r reg _ _ _ c

theorem wire (r : Resolver) (k : Wire) : BlamesNoFlow (Dispatch.wire r k) := by
  refine .bind (registration r k.op) fun reg => .bind .store fun s => ?_
  split
  case h_1 => exact .throw fun ⟨_, _, _, _, _, blame⟩ => nomatch blame
  case h_2 =>
    exact .bind (wireClass _ _ _ _ _ _) fun _ => .bind (.modify _) fun _ => .modify _

theorem flush (r : Resolver) : BlamesNoFlow (Dispatch.flush r false) := by
  refine .bind .pure fun _ => .bind (.of_ends fun w => ⟨_, _, rfl⟩) fun ⟨pending, wires⟩ => ?_
  refine .ite (.bind (.modify _) fun _ => ?_) .pure
  exact .bind (.forM fun task => resolveDeferred r task) fun _ => .forM fun k => wire r k

theorem requestWires (f : Findings) (op listener : NodeId) :
    BlamesNoFlow (requestWires f op listener) := by
  have asks (k : Wire) : BlamesNoFlow (Dispatch.requestWire k) := by
    refine .of_ends fun w => ?_
    obtain ⟨added, w', ran, -⟩ := requestWire_eq_ok k w
    exact ⟨added, w', ran⟩
  unfold Solve.requestWires
  split
  · exact .bind (asks _) fun _ => .pure
  · exact .forM fun v => .bind (asks _) fun _ => .pure

theorem finalize (r : Resolver) (f : Findings) : BlamesNoFlow (finalize r f) := by
  refine .bind (.forM fun (op, listeners) => .forM fun l => requestWires f op l) fun _ => ?_
  exact .bind (flush r) fun _ => .bind (.of_ends fun w => ⟨w, w, rfl⟩) fun w => .modify _

theorem pass (index : Nat) (name : String) (blameless : BlamesNoFlow step) :
    BlamesNoFlow (pass index name step) := by
  refine .bind (.modify _) fun _ => Triple.bind (Triple.attempt blameless) fun outcome => ?_
  cases outcome with
  | error e =>
    refine Triple.bind (M := fun _ _ => ¬ e.BlamesFlow) (Triple.modify fun _ h => h) fun _ => ?_
    exact Triple.throw fun _ blameless => blameless
  | ok a =>
    refine Triple.bind (M := fun _ _ => True) (Triple.modify fun _ _ => trivial) fun _ => ?_
    exact BlamesNoFlow.bind (.modify _) fun _ => .pure

end BlamesNoFlow

/-! ### Whole solves -/

theorem pass_congr {index : Nat} {name : String} {step step' : Work α}
    (same : step { w with journal := .passStarted index 5 name :: w.journal } =
      step' { w with journal := .passStarted index 5 name :: w.journal }) :
    pass index name step w = pass index name step' w := by
  have tried : attempt step { w with journal := .passStarted index 5 name :: w.journal } =
      attempt step' { w with journal := .passStarted index 5 name :: w.journal } := by
    unfold attempt
    rw [same]
  exact bind_congr_first tried

theorem run_canceled (rules : Rules) (r : Resolver) (w : Workspace) :
    run rules r true w = .error .canceled w := bind_of_error rfl

/-- A solve that blames a flow has not been canceled. -/
theorem not_canceled_of_blamesFlow {rules : Rules} {canceled : Bool} {e : Fault}
    (failed : run rules r canceled w = .error e w') (blames : e.BlamesFlow) : canceled = false := by
  cases canceled with
  | false => rfl
  | true =>
    cases (run_canceled rules r w).symm.trans failed
    obtain ⟨_, _, _, _, _, blame⟩ := blames
    cases blame

theorem pass_of_error {index : Nat} {name : String} {step : Work α} {v : Workspace} {e : Fault}
    (failed : step { w with journal := .passStarted index 5 name :: w.journal } = .error e v) :
    ∃ w', pass index name step w = .error (.within (.pass name) e) w' := by
  have outcome : attempt step { w with journal := .passStarted index 5 name :: w.journal } =
      .ok (.error e) v := by
    unfold attempt
    rw [failed]
  have started : pass index name step w = _ := bind_of_ok (w := w) rfl
  rw [started, bind_of_ok outcome]
  exact ⟨_, rfl⟩

/-- A pass whose step looks and cannot fail, ends. -/
theorem pass_of_looks {index : Nat} {name : String} {step : Work α} {fails : Fault → Prop}
    {post : α → Prop} (looks : Looks G fails step post) (never : ∀ e, ¬ fails e)
    (graph : w.store = G) :
    ∃ a w', pass index name step w = .ok a w' ∧ w'.store = G ∧ post a := by
  have ends := looks { w with journal := .passStarted index 5 name :: w.journal } graph
  cases done : step { w with journal := .passStarted index 5 name :: w.journal } with
  | error e v =>
    rw [done] at ends
    exact absurd ends.2 (never e)
  | ok a v =>
    rw [done] at ends
    obtain ⟨journal, passed⟩ := pass_of_ok done
    exact ⟨a, _, passed, ends⟩

/-- Lenient rules let every graph be explored. -/
theorem explore_lenient (wf : G.WellFormed) (graph : w.store = G) :
    ∃ st w', explore ⟨t, false⟩ r w = .ok st w' ∧ w'.store = G := by
  have lenient (e : Fault) : ¬ Unclassified ⟨t, false⟩ e := fun strict => Bool.false_ne_true strict.1
  obtain ⟨st₂, w₂, pass₂, graph₂, knows₂⟩ :=
    pass_of_looks (looks_producerPass wf knows_nothing) lenient graph
  obtain ⟨st₃, w₃, pass₃, graph₃, knows₃⟩ :=
    pass_of_looks (looks_windowPass wf knows₂) (fun _ => id) graph₂
  obtain ⟨st₄, w₄, pass₄, graph₄, -⟩ :=
    pass_of_looks (looks_listenerPass wf knows₃) (fun _ => id) graph₃
  refine ⟨st₄, w₄, ?_, graph₄⟩
  unfold explore
  rw [bind_of_ok pass₂, bind_of_ok pass₃]
  exact pass₄

/-- The first pass ends, and leaves the dispatcher as it is. -/
theorem pass_prewire_of_wellFormed (wf : w.store.WellFormed) :
    ∃ w₁, pass 1 "prewire" prewire w = .ok () w₁ ∧ w₁.store = w.store.prewired ∧
      w₁.dispatcher = w.dispatcher := by
  obtain ⟨v, ran, -⟩ :=
    prewire_eq_ok (w := { w with journal := .passStarted 1 5 "prewire" :: w.journal }) wf
  obtain ⟨journal, passed⟩ := pass_of_ok ran
  have start : w.store = w.store ∧ w.dispatcher = w.dispatcher := ⟨rfl, rfl⟩
  exact ⟨_, passed,
    (Triple.pass (fun _ _ h => h) (fun _ _ _ h => h) (wiring_prewire wf)).of_ok start passed⟩

/-- A lenient solve of a well-formed graph may fail when it wires handlers, but blames no flow. -/
theorem run_lenient_blamesNoFlow (wf : w.store.WellFormed) {canceled : Bool} {e : Fault}
    (failed : run ⟨t, false⟩ r canceled w = .error e w') : ¬ e.BlamesFlow := by
  intro blames
  obtain rfl := not_canceled_of_blamesFlow failed blames
  obtain ⟨w₁, prewired, graph, -⟩ := pass_prewire_of_wellFormed wf
  obtain ⟨st, w₂, explored, -⟩ := explore_lenient (t := t) (r := r) wf.prewired graph
  have active : checkCanceled false w = .ok () w := rfl
  rw [run_eq, bind_of_ok active, bind_of_ok prewired, bind_of_ok explored] at failed
  rcases bind_eq_error failed with wiring | ⟨_, v, -, reporting⟩
  · have ending := (BlamesNoFlow.finalize r st.findings).pass 5 "finalize" w₂
    rw [wiring] at ending
    exact ending trivial blames
  · obtain ⟨sol, v', reported, -⟩ :=
      (report_ends (fun _ _ (holds : True) => holds) st).exists_ok (w := v) trivial
    cases reporting.symm.trans reported

/-- A strict solve of a graph with an unlisted flow fails at the first, before it asks for wires. -/
theorem run_strict_of_find? (wf : w.store.WellFormed) {x : ObjectFlow}
    (found : (judgedFlows w.store.prewired).find? (·.isUnlisted t) = some x) :
    ∃ w', run ⟨t, true⟩ r false w = .error (.within (.pass "producers") x.fault) w' ∧
      w'.store = w.store.prewired ∧ w'.dispatcher = w.dispatcher := by
  obtain ⟨w₁, prewired, start⟩ := pass_prewire_of_wellFormed wf
  have step := inStep_producerPass (t := t) wf.prewired
    { w₁ with journal := .passStarted 2 5 "producers" :: w₁.journal } start.1
  rw [found] at step
  obtain ⟨v, failed⟩ := step
  obtain ⟨w', failed⟩ := pass_of_error failed
  have quiet : IgnoresJournal fun v => v.store = w.store.prewired ∧ v.dispatcher = w.dispatcher :=
    fun _ _ same => same
  have keeps : Keeps _ (pass 2 "producers" (producerPass ⟨t, true⟩ {})) :=
    quiet.pass (quiet.producerPass ⟨t, true⟩ {})
  have kept := keeps w₁ start
  rw [failed] at kept
  have active : checkCanceled false w = .ok () w := rfl
  refine ⟨w', ?_, kept⟩
  rw [run_eq, bind_of_ok active, bind_of_ok prewired]
  exact bind_of_error (bind_of_error failed)

/-- Without an unlisted flow, strictness makes no difference at all. -/
theorem run_strict_eq_lenient (wf : w.store.WellFormed) (canceled : Bool)
    (listed : (judgedFlows w.store.prewired).find? (·.isUnlisted t) = none) :
    run ⟨t, true⟩ r canceled w = run ⟨t, false⟩ r canceled w := by
  cases canceled with
  | true => rw [run_canceled, run_canceled]
  | false =>
    obtain ⟨w₁, prewired, graph, -⟩ := pass_prewire_of_wellFormed wf
    have step := inStep_producerPass (t := t) wf.prewired
      { w₁ with journal := .passStarted 2 5 "producers" :: w₁.journal } graph
    rw [listed] at step
    obtain ⟨st, v, strict, lenient, -⟩ := step
    have active : checkCanceled false w = .ok () w := rfl
    rw [run_eq, run_eq, bind_of_ok active, bind_of_ok active, bind_of_ok prewired,
      bind_of_ok prewired]
    -- The later passes read the table of the rules only.
    exact bind_congr_first (bind_congr_first (pass_congr (strict.trans lenient.symm)))

/-- A strict solve blames a flow exactly if the table has a gap. It blames the first gap, and then
nothing has happened but that the graph was prewired. Without a gap it does what a lenient solve
does. -/
theorem strict_exact {qs : List StoreRequest} (built : w.store = Store.empty.run qs)
    (t : Classification) (r : Resolver) (canceled : Bool) :
    let G := w.store.prewired
    (G.nodes = w.store.nodes ∧ ∀ e, e ∈ G.edges ↔ e ∈ w.store.edges ∨
      ∃ b ∈ w.store.windowBindings, ∃ p ∈ b.producers, e = ⟨p, b.root, {}⟩) ∧
    ((∃ e w', run ⟨t, true⟩ r canceled w = .error e w' ∧ e.BlamesFlow) ↔
      canceled = false ∧ ∃ x, Gap G t x) ∧
    (∀ e w', run ⟨t, true⟩ r canceled w = .error e w' → e.BlamesFlow →
      ∃ x, IsFirstGap G t x ∧ e = .within (.pass "producers") (.unclassified x.producer x.object.name
          x.op.id x.op.op.kind.name x.role.name) ∧
        w'.store = G ∧ w'.dispatcher = w.dispatcher) ∧
    ((¬ ∃ x, Gap G t x) → run ⟨t, true⟩ r canceled w = run ⟨t, false⟩ r canceled w) := by
  have wf : w.store.WellFormed := built ▸ Store.wellFormed_run qs
  refine ⟨wf.edges_prewired, ?_⟩
  cases found : (judgedFlows w.store.prewired).find? (·.isUnlisted t) with
  | none =>
    have same := run_strict_eq_lenient (r := r) wf canceled found
    have noGap : ¬ ∃ x, Gap w.store.prewired t x := fun ⟨x, gap⟩ =>
      not_gap_of_find? wf.prewired found x gap
    have blameless {e : Fault} {w' : Workspace} (failed : run ⟨t, true⟩ r canceled w = .error e w') :
        ¬ e.BlamesFlow := run_lenient_blamesNoFlow wf (same.symm.trans failed)
    refine ⟨⟨?_, ?_⟩, ?_, fun _ => same⟩
    · rintro ⟨e, w', failed, blames⟩
      exact absurd blames (blameless failed)
    · rintro ⟨-, gap⟩
      exact absurd gap noGap
    · intro e w' failed blames
      exact absurd blames (blameless failed)
  | some x =>
    have first := isFirstGap_of_find? wf.prewired found
    obtain ⟨v, failed, kept⟩ := run_strict_of_find? (r := r) wf found
    refine ⟨⟨?_, ?_⟩, ?_, fun noGap => absurd ⟨x, first.1⟩ noGap⟩
    · rintro ⟨e, w', failed', blames⟩
      exact ⟨not_canceled_of_blamesFlow failed' blames, x, first.1⟩
    · rintro ⟨rfl, -⟩
      exact ⟨_, v, failed, _, _, _, _, _, rfl⟩
    · intro e w' failed' blames
      obtain rfl := not_canceled_of_blamesFlow failed' blames
      cases failed.symm.trans failed'
      exact ⟨x, first, rfl, kept⟩

/-- A view flows into both roles of a call that sets a text, which the default table lists, and into
the parameter of a call that adds a fragment, which it does not. -/
def fragmentRequests : List StoreRequest :=
  [.internAlloc ⟨"new V", "V", .view⟩,
   .internLocal ⟨"m", "v"⟩,
   .addEdge 1 2 {},
   .createOperation { kind := "set-text", operands := ⟨2, 2, 0⟩ },
   .createOperation { kind := "add-fragment", operands := ⟨2, 2, 0⟩ }]

def fragmentWorkspace : Workspace := { store := Store.empty.run fragmentRequests }

theorem strict_exact_fragment : fragmentWorkspace.store = Store.empty.run fragmentRequests ∧
    ∃ w', run ⟨.default, true⟩ {} false fragmentWorkspace = .error (.within (.pass "producers")
        (.unclassified 1 "view" 4 "add-fragment" "parameter")) w' ∧
      w'.dispatcher = fragmentWorkspace.dispatcher ∧
      ∃ x, IsFirstGap fragmentWorkspace.store.prewired .default x := by
  refine ⟨rfl, ?_⟩
  have ran : (match run ⟨.default, true⟩ {} false fragmentWorkspace with
      | .ok _ _ => false
      | .error e _ => decide (e = .within (.pass "producers")
          (.unclassified 1 "view" 4 "add-fragment" "parameter"))) = true := by decide +kernel
  split at ran
  case h_1 => cases ran
  case h_2 e w' failed =>
    obtain rfl := of_decide_eq_true ran
    obtain ⟨-, -, blamed, -⟩ := strict_exact (w := fragmentWorkspace) rfl .default {} false
    obtain ⟨x, first, -, -, kept⟩ := blamed _ w' failed ⟨_, _, _, _, _, rfl⟩
    exact ⟨w', failed, kept, x, first⟩

end Solve

end WidgetFlow
