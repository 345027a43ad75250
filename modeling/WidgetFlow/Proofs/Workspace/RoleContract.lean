import WidgetFlow.Proofs.Graph.Flow
import WidgetFlow.Proofs.Workspace.Serving

/-!
# The contract of operations

An operation is created with the nodes of its roles, and these are kept nowhere but in the order of
its edges. That is enough: no request touches the edges of an operation that exists, so an operation
answers for its roles as it was created for as long as the analysis goes on, whatever intake,
dispatch and solver do in between (`role_contract`).
-/

namespace WidgetFlow

namespace Store

variable {s t : Store}

/-- The node exists and is no operation. -/
def PlainAt (s : Store) (id : NodeId) : Prop := ∃ n, s.node? id = some n ∧ n.isOperation = false

theorem plainAt_iff {id : NodeId} : s.PlainAt id ↔ s.isOperand id = true := by
  unfold PlainAt isOperand
  cases s.node? id <;> simp

/-- The kind of the request is known, every operand is supplied for a role that the kind declares,
and every role of the layout, and the result if there is one, names a plain node. -/
structure Admits (s : Store) (r : OperationRequest) (kind : OpKind) : Prop where
  known : OpKind.ofName? r.kind = some kind
  declared : ∀ role, r.operands.get role ≠ 0 → kind.signature.has role
  filled : ∀ role ∈ kind.signature.layout, s.PlainAt (r.operands.get role)
  result : r.operands.result = 0 ∨ s.PlainAt r.operands.result

theorem admits_iff {r : OperationRequest} {kind : OpKind} :
    s.Admits r kind ↔ OpKind.ofName? r.kind = some kind ∧ s.Fits kind.signature r.operands := by
  constructor
  · intro admits
    refine ⟨admits.known, admits.declared, fun role inLayout => ?_, fun given => ?_⟩
    · exact plainAt_iff.1 (admits.filled role inLayout)
    · exact plainAt_iff.1 (admits.result.resolve_left given)
  · rintro ⟨known, fits⟩
    refine ⟨known, fits.declared, fun role inLayout => plainAt_iff.2 (fits.filled role inLayout), ?_⟩
    by_cases given : r.operands.result = 0
    · exact .inl given
    · exact .inr (plainAt_iff.2 (fits.result given))

theorem createOperation_succeeds_iff {r : OperationRequest} :
    (∃ op s', s.createOperation r = .ok (op, s')) ↔ ∃ kind, s.Admits r kind := by
  simp only [createOperation_eq_ok_iff, admits_iff]
  constructor
  · rintro ⟨_, _, kind, known, fits, -⟩
    exact ⟨kind, known, fits⟩
  · rintro ⟨kind, known, fits⟩
    exact ⟨_, _, kind, known, fits, rfl, rfl⟩

/-- The operation answers for every role that it declares with the node that was supplied for it,
and refuses to answer for any other. There is an edge to read a result from exactly if a result was
supplied. -/
structure Honours (t : Store) (op : NodeId) (kind : OpKind) (i : Operands) : Prop where
  declared : ∀ role, kind.signature.has role → t.operand op role = .ok (i.get role)
  undeclared : ∀ role, ¬ kind.signature.has role →
    t.operand op role = .error (.contract op kind.name role.name .undeclaredRole)
  unknown : ∀ word, t.operand op (.other word) =
    .error (.contract op kind.name word .undeclaredRole)
  result : (t.succs op)[0]?.isSome ↔ i.result ≠ 0

theorem operand_of_not_has {op : NodeId} {o : Operation} {role : Role}
    (there : t.operationAt op = some o) (undeclared : ¬ o.kind.signature.has role) :
    t.operand op role = .error (.contract op o.kind.name role.name .undeclaredRole) := by
  obtain ⟨n, at_op, isOp⟩ := operationAt_eq_some_iff.1 there
  obtain ⟨e, entry, rfl⟩ := node?_eq_some_iff.1 at_op
  have noSlot : o.kind.signature.slot? role = none := by
    simpa [Signature.has] using undeclared
  simp only [operand, entry, isOp, noSlot]

theorem operand_of_operationAt_eq_none {op : NodeId} {role : Role}
    (none : t.operationAt op = none) :
    t.operand op role = .error (.contract op "" role.name .notAnOperation) := by
  unfold operand
  split
  case h_1 => rfl
  case h_2 e entry =>
    have there : t.node? op = some e.node := node?_eq_some_iff.2 ⟨e, entry, rfl⟩
    have plain : e.node.operation? = Option.none := by simpa [operationAt, there] using none
    simp only [plain]

/-- No kind declares a role that is not one of the three. -/
theorem not_has_other (kind : OpKind) (word : String) : ¬ kind.signature.has (.other word) := by
  cases kind <;> simp [OpKind.signature, Signature.has, Signature.slot?]

theorem Wired.honours {op : NodeId} {o : Operation} {i : Operands} (wired : t.Wired op o i)
    (there : t.operationAt op = some o) : t.Honours op o.kind i where
  declared _ declared := wired.operand there declared
  undeclared _ undeclared := operand_of_not_has there undeclared
  unknown word := operand_of_not_has there (not_has_other o.kind word)
  result := by
    rw [wired.succs, resultEdges]
    split
    case isTrue given => simp [given]
    case isFalse given => simpa using given

/-- An operation that has just been created has the edges of its operands. -/
theorem wired_of_createOperation {s' : Store} {r : OperationRequest} {op : NodeId}
    (created : s.createOperation r = .ok (op, s')) :
    ∃ kind, s.Admits r kind ∧ s'.operationAt op = some (r.operation kind) ∧
      s'.Wired op (r.operation kind) r.operands := by
  obtain ⟨kind, known, fits, rfl, rfl⟩ := createOperation_eq_ok_iff.1 created
  refine ⟨kind, admits_iff.2 ⟨known, fits⟩, ?_, Fits.wired (o := r.operation kind) fits⟩
  rw [operationAt_operated, if_pos rfl]

end Store

/-- Requests keep what an operation answers for its roles. -/
theorem Served.honours {s : Store} {w : Workspace} {op : NodeId} {o : Operation} {i : Operands}
    (served : Served s w) (there : s.operationAt op = some o) (wired : s.Wired op o i) :
    w.store.Honours op o.kind i := by
  obtain ⟨qs, graph⟩ := served
  rw [graph]
  have grows := Store.run_grows s qs
  exact (wired.grow there grows).honours (grows.operationAt there)

/-- A request for an operation is granted exactly if it fits the contract of its kind. The operation
answers for its roles as it was requested in every workspace that any activities lead to. In every
workspace at all, a question for a role is answered, or refused because there is no operation or
because its kind does not declare the role, but never because an edge is missing. -/
theorem role_contract (p : Program) (before : List Activity) :
    let s := (Workspace.run p {} before).store
    (∀ r, (∃ op s', s.createOperation r = .ok (op, s')) ↔ ∃ kind, s.Admits r kind) ∧
      (∀ r op s', s.createOperation r = .ok (op, s') →
        ∃ kind, s.Admits r kind ∧ ∀ w : Workspace, w.store = s' → ∀ p' after,
          (w.run p' after).store.Honours op kind r.operands) ∧
      ∀ op role, (∃ v, s.operand op role = .ok v) ∨
        (s.operationAt op = none ∧
          s.operand op role = .error (.contract op "" role.name .notAnOperation)) ∨
        ∃ o, s.operationAt op = some o ∧ ¬ o.kind.signature.has role ∧
          s.operand op role = .error (.contract op o.kind.name role.name .undeclaredRole) := by
  intro s
  refine ⟨fun r => Store.createOperation_succeeds_iff, fun r op s' created => ?_, fun op role => ?_⟩
  · obtain ⟨kind, admits, there, wired⟩ := Store.wired_of_createOperation created
    refine ⟨kind, admits, fun w graph p' after => ?_⟩
    exact (graph ▸ served_run p' w after).honours there wired
  · obtain ⟨qs, graph⟩ : Served Store.empty (Workspace.run p {} before) := served_run p {} before
    have wf : s.WellFormed := by
      show (Workspace.run p {} before).store.WellFormed
      rw [graph]
      exact Store.wellFormed_run qs
    cases isOp : s.operationAt op with
    | none => exact .inr (.inl ⟨rfl, Store.operand_of_operationAt_eq_none isOp⟩)
    | some o =>
      by_cases declared : o.kind.signature.has role
      · obtain ⟨i, wired⟩ := wf.wired isOp
        exact .inl ⟨_, wired.operand isOp declared⟩
      · exact .inr (.inr ⟨o, rfl, declared, Store.operand_of_not_has isOp declared⟩)

/-- One node may fill all roles of an operation, and each role keeps it: through an edge that is added
to the node itself, and through a solve. -/
theorem role_contract_shared :
    let before := [Activity.request (.internLocal ⟨"m", "v"⟩)]
    let r : OperationRequest := { kind := "find-view", operands := ⟨1, 1, 1⟩ }
    let after := [Activity.request (.addEdge 1 1 {}), .solve {} false]
    ∃ w : Workspace, (Workspace.run {} {} before).store.createOperation r = .ok (2, w.store) ∧
      (w.run {} after).store.operand 2 .receiver = .ok 1 ∧
      (w.run {} after).store.operand 2 .parameter = .ok 1 ∧
      (w.run {} after).store.operand 2 .result = .ok 1 ∧
      (w.run {} after).store.operand 2 (.other "root") =
        .error (.contract 2 "find-view" "root" .undeclaredRole) := by
  intro before r after
  obtain ⟨w, created⟩ : ∃ w : Workspace,
      (Workspace.run {} {} before).store.createOperation r = .ok (2, w.store) :=
    ⟨{ store := _ }, rfl⟩
  obtain ⟨kind, admits, honours⟩ := (role_contract {} before).2.1 r 2 w.store created
  obtain rfl : OpKind.findView = kind := Option.some.inj admits.known
  have kept := honours w rfl {} after
  exact ⟨w, created, kept.declared .receiver rfl, kept.declared .parameter rfl,
    kept.declared .result rfl, kept.unknown "root"⟩

end WidgetFlow
