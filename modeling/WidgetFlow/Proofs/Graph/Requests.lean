import WidgetFlow.Graph.Window
import WidgetFlow.Proofs.Graph.Entries

/-!
# Runs of requests on a store

A `StoreRequest` is anything that a client may ask of a store and that may change it; `run` serves a
list of them, and a refused request changes nothing. What one request can do is said once, by
`Step`: every invariant of stores is proved for its cases and follows for all runs. The first such fact
stands here: a store only grows, and the edges of an operation never change (`Grows`).
-/

namespace WidgetFlow

/-- A request that may change a store. -/
inductive StoreRequest where
  | intern (r : Ref)
  | internLocal (l : Local)
  | internAlloc (a : AllocSite)
  | internField (f : FieldRef)
  | internConstant (c : ConstantRef)
  | internResource (r : ResourceId)
  | internWindow (w : WindowRef)
  | internNull
  | newAllocation (className : String) (kind : ObjectKind)
  | addEdge (src dst : NodeId) (site : Site)
  | createOperation (r : OperationRequest)
  | bindWindowRoot (window root : NodeId)
  | addWindowRoot (window producer : NodeId)
  deriving DecidableEq, Inhabited

namespace Store

/-- The store that a request leads to, or why it is refused. -/
def answer (s : Store) : StoreRequest → Except Fault Store
  | .intern r => (s.intern r).map (·.2)
  | .internLocal l => (s.internLocal l).map (·.2)
  | .internAlloc a => (s.internAlloc a).map (·.2)
  | .internField f => (s.internField f).map (·.2)
  | .internConstant c => (s.internConstant c).map (·.2)
  | .internResource r => (s.internResource r).map (·.2)
  | .internWindow w => (s.internWindow w).map (·.2)
  | .internNull => .ok s.internNull.2
  | .newAllocation c k => .ok (s.newAllocation c k).2
  | .addEdge src dst site => (s.addEdge src dst site).map (·.2)
  | .createOperation r => (s.createOperation r).map (·.2)
  | .bindWindowRoot w root => s.bindWindowRoot w root
  | .addWindowRoot w p => s.addWindowRoot w p

/-- The store after a request; a refused request leaves it as it was. -/
def serve (s : Store) (q : StoreRequest) : Store :=
  match s.answer q with
  | .ok s' => s'
  | .error _ => s

/-- The store after a list of requests. -/
def run (s : Store) (qs : List StoreRequest) : Store := qs.foldl serve s

@[simp] theorem run_nil (s : Store) : s.run [] = s := rfl

@[simp] theorem run_cons (s : Store) (q : StoreRequest) (qs : List StoreRequest) :
    s.run (q :: qs) = (s.serve q).run qs := rfl

theorem run_append (s : Store) (qs more : List StoreRequest) :
    s.run (qs ++ more) = (s.run qs).run more := List.foldl_append

/-! ### What a request can do -/

/-- The operands suit a signature: none stands in a role that is not declared, those of the layout
are all there, and the result, if there is one, may be an operand. -/
structure Fits (s : Store) (sig : Signature) (i : Operands) : Prop where
  declared : ∀ r, i.get r ≠ 0 → sig.has r
  filled : ∀ r ∈ sig.layout, s.isOperand (i.get r)
  result : i.result ≠ 0 → s.isOperand i.result

theorem operandBreach?_eq_none_iff {s : Store} {i : Operands} {r : Role} :
    s.operandBreach? i r = none ↔ s.isOperand (i.get r) = true := by
  unfold operandBreach? isOperand
  cases s.node? (i.get r) <;> simp

/-- An operation is created exactly if its operands suit its signature. -/
theorem operandsBreach?_eq_none_iff {s : Store} {sig : Signature} {i : Operands} :
    s.operandsBreach? sig i = none ↔ s.Fits sig i := by
  unfold operandsBreach?
  constructor
  · intro none
    split at none
    case h_1 => cases none
    case h_2 undeclared =>
      split at none
      case h_1 => cases none
      case h_2 unfilled =>
        simp only [List.find?_eq_none, List.mem_cons, List.not_mem_nil, or_false] at undeclared
        simp only [List.findSome?_eq_none_iff, Option.map_eq_none_iff] at unfilled
        refine ⟨fun r given => ?_, fun r inLayout => ?_, fun given => ?_⟩
        · have named : r = .receiver ∨ r = .parameter ∨ r = .result := by
            cases r with
            | other => exact absurd rfl given
            | _ => simp
          simpa [given] using undeclared r named
        · exact operandBreach?_eq_none_iff.1 (unfilled r inLayout)
        · simpa [given] using none
  · rintro ⟨declared, filled, result⟩
    have undeclared : [Role.receiver, .parameter, .result].find?
        (fun r => i.get r ≠ 0 && !sig.has r) = none := by
      rw [List.find?_eq_none]
      intro r _ bad
      simp only [Bool.and_eq_true, decide_eq_true_eq, Bool.not_eq_true'] at bad
      rw [declared r bad.1] at bad
      cases bad.2
    have unfilled : sig.layout.findSome? (fun r => (s.operandBreach? i r).map (r, ·)) = none := by
      rw [List.findSome?_eq_none_iff]
      intro r inLayout
      rw [operandBreach?_eq_none_iff.2 (filled r inLayout)]
      rfl
    rw [undeclared, unfilled]
    by_cases given : i.result = 0
    · simp [given]
    · simp [given, result given]

/-- What a request can do to a store, unless it creates an operation. -/
inductive PlainStep (s : Store) : Store → Prop where
  | same : PlainStep s s
  | named (e : Entity) (fresh : s.lookup? e.key = none) : PlainStep s (s.register e)
  | madeUp (className : String) (kind : ObjectKind) :
      PlainStep s (s.push (.synthetic (s.stats.synthetic + 1) className kind))
  | joined (e : Edge) (src : s.isOperand e.src) (dst : s.isOperand e.dst) (fresh : e ∉ s.edges) :
      PlainStep s (s.link e)
  | rooted (window root : NodeId) (n : Node) (at_window : s.node? window = some n)
      (isWindow : n.isWindow) (plain : s.isOperand root) :
      PlainStep s { s with roots := assign window root s.roots }
  | collected (window producer : NodeId) (n : Node) (at_window : s.node? window = some n)
      (isWindow : n.isWindow) (plain : s.isOperand producer)
      (fresh : producer ∉ s.producersOf window) :
      PlainStep s { s with
        producers := assign window (s.producersOf window ++ [producer]) s.producers }

/-- All that one request can do to a store. -/
inductive Step (s : Store) : Store → Prop where
  | plain {s' : Store} (step : PlainStep s s') : Step s s'
  | operated (o : Operation) (i : Operands) (fits : s.Fits o.kind.signature i) :
      Step s ((s.push (.operation o)).linkOperands s.nextId o i)

theorem internEntity_step (s : Store) (e : Entity) : PlainStep s (s.internEntity e).2 := by
  unfold internEntity
  split
  case h_1 => exact .same
  case h_2 fresh => exact .named e fresh

theorem internOr_step {s s' : Store} {what detail : String} {e? : Option Entity}
    (ok : (s.internOr what detail e?).map (·.2) = .ok s') : PlainStep s s' := by
  cases e? with
  | none => cases ok
  | some e =>
    cases ok
    exact internEntity_step s e

theorem intern_step {s s' : Store} {r : Ref} (ok : (s.intern r).map (·.2) = .ok s') :
    PlainStep s s' := by
  unfold intern at ok
  split at ok
  case isFalse => cases ok
  case isTrue =>
    split at ok
    case h_7 =>
      cases ok
      exact internEntity_step s .null
    case h_8 => cases ok
    case h_9 => cases ok
    all_goals exact internOr_step ok

/-- An edge is granted exactly between plain nodes, and added unless it is there. -/
theorem addEdge_eq_ok_iff {s s' : Store} {src dst : NodeId} {site : Site} {added : Bool} :
    s.addEdge src dst site = .ok (added, s') ↔ s.isOperand src ∧ s.isOperand dst ∧
      (added = true ↔ ⟨src, dst, site⟩ ∉ s.edges) ∧
      s' = if ⟨src, dst, site⟩ ∈ s.edges then s else s.link ⟨src, dst, site⟩ := by
  constructor
  · intro ok
    unfold addEdge at ok
    split at ok
    case h_2 => cases ok
    case h_1 a b atSrc atDst =>
      split at ok
      case h_1 => cases ok
      case h_2 => cases ok
      case h_3 plainSrc plainDst =>
        refine ⟨isOperand_of_node? atSrc plainSrc, isOperand_of_node? atDst plainDst, ?_⟩
        split at ok
        case isTrue known => cases ok; simp [known]
        case isFalse fresh => cases ok; simp [fresh]
  · rintro ⟨src, dst, new, rfl⟩
    obtain ⟨a, atSrc, plainSrc⟩ := isOperand_iff.1 src
    obtain ⟨b, atDst, plainDst⟩ := isOperand_iff.1 dst
    simp only [addEdge, atSrc, atDst, plainSrc, plainDst]
    split
    case isTrue known => simpa [known] using new
    case isFalse fresh => simpa [fresh] using new

theorem addEdge_step {s s' : Store} {src dst : NodeId} {site : Site} {added : Bool}
    (ok : s.addEdge src dst site = .ok (added, s')) : PlainStep s s' := by
  obtain ⟨plainSrc, plainDst, -, rfl⟩ := addEdge_eq_ok_iff.1 ok
  split
  case isTrue => exact .same
  case isFalse fresh => exact .joined _ plainSrc plainDst fresh

theorem createOperation_eq_ok_iff {s s' : Store} {r : OperationRequest} {op : NodeId} :
    s.createOperation r = .ok (op, s') ↔ ∃ kind, OpKind.ofName? r.kind = some kind ∧
      s.Fits kind.signature r.operands ∧ op = s.nextId ∧
      s' = (s.push (.operation (r.operation kind))).linkOperands s.nextId (r.operation kind)
        r.operands := by
  unfold createOperation
  cases OpKind.ofName? r.kind with
  | none => simp
  | some kind =>
    have sig : (r.operation kind).kind.signature = kind.signature := rfl
    simp only [Option.some.injEq, exists_eq_left', createKnown, sig, ← operandsBreach?_eq_none_iff]
    cases s.operandsBreach? kind.signature r.operands with
    | none => simp [eq_comm]
    | some b => simp

theorem createOperation_step {s s' : Store} {r : OperationRequest} {op : NodeId}
    (ok : s.createOperation r = .ok (op, s')) : Step s s' := by
  obtain ⟨kind, _, fits, _, rfl⟩ := createOperation_eq_ok_iff.1 ok
  exact .operated (r.operation kind) r.operands fits

theorem checkWindow_eq_ok {s : Store} {id : NodeId} (ok : s.checkWindow id = .ok ()) :
    ∃ n, s.node? id = some n ∧ n.isWindow := by
  unfold checkWindow at ok
  split at ok
  case h_2 => cases ok
  case h_1 n at_id =>
    split at ok
    case isTrue isWindow => exact ⟨n, at_id, isWindow⟩
    case isFalse => cases ok

theorem checkFlowEnd_eq_ok {s : Store} {what : String} {id : NodeId}
    (ok : s.checkFlowEnd what id = .ok ()) : s.isOperand id := by
  unfold checkFlowEnd at ok
  split at ok
  case h_1 => cases ok
  case h_2 n at_id =>
    split at ok
    case h_1 => cases ok
    case h_2 plain => exact isOperand_of_node? at_id plain

theorem bindWindowRoot_step {s s' : Store} {window root : NodeId}
    (ok : s.bindWindowRoot window root = .ok s') : PlainStep s s' := by
  unfold bindWindowRoot at ok
  cases isWindow : s.checkWindow window with
  | error => rw [isWindow] at ok; cases ok
  | ok =>
    obtain ⟨n, at_window, isWindow'⟩ := checkWindow_eq_ok isWindow
    rw [isWindow] at ok
    cases plain : s.checkFlowEnd ("bind window " ++ toString window ++ ": root") root with
    | error => rw [plain] at ok; cases ok
    | ok =>
      rw [plain] at ok
      cases ok
      exact .rooted window root n at_window isWindow' (checkFlowEnd_eq_ok plain)

theorem addWindowRoot_step {s s' : Store} {window producer : NodeId}
    (ok : s.addWindowRoot window producer = .ok s') : PlainStep s s' := by
  unfold addWindowRoot at ok
  cases isWindow : s.checkWindow window with
  | error => rw [isWindow] at ok; cases ok
  | ok =>
    obtain ⟨n, at_window, isWindow'⟩ := checkWindow_eq_ok isWindow
    rw [isWindow] at ok
    cases plain : s.checkFlowEnd ("window " ++ toString window ++ " root: producer") producer with
    | error => rw [plain] at ok; cases ok
    | ok =>
      rw [plain] at ok
      change (if producer ∈ s.producersOf window then _ else _) = _ at ok
      split at ok
      case isTrue =>
        cases ok
        exact .same
      case isFalse fresh =>
        cases ok
        exact .collected window producer n at_window isWindow' (checkFlowEnd_eq_ok plain) fresh

theorem map_snd_eq_ok {α : Type} {x : Except Fault (α × Store)} {s' : Store}
    (ok : x.map (·.2) = .ok s') : ∃ a, x = .ok (a, s') := by
  cases x with
  | error => cases ok
  | ok p =>
    cases ok
    exact ⟨p.1, rfl⟩

theorem answer_plainStep {s s' : Store} {q : StoreRequest} (ok : s.answer q = .ok s')
    (other : ∀ r, q ≠ .createOperation r) : PlainStep s s' := by
  cases q with
  | intern r => exact intern_step ok
  | internNull => cases ok; exact internEntity_step s .null
  | newAllocation c k => cases ok; exact .madeUp c k
  | addEdge src dst site =>
    obtain ⟨added, ok⟩ := map_snd_eq_ok ok
    exact addEdge_step ok
  | createOperation r => exact absurd rfl (other r)
  | bindWindowRoot w root => exact bindWindowRoot_step ok
  | addWindowRoot w p => exact addWindowRoot_step ok
  | _ => exact internOr_step ok

/-- A request that is granted takes one step. -/
theorem answer_step {s s' : Store} {q : StoreRequest} (ok : s.answer q = .ok s') : Step s s' := by
  by_cases creates : ∃ r, q = .createOperation r
  · obtain ⟨r, rfl⟩ := creates
    obtain ⟨op, ok⟩ := map_snd_eq_ok ok
    exact createOperation_step ok
  · exact .plain (answer_plainStep ok fun r same => creates ⟨r, same⟩)

theorem serve_step (s : Store) (q : StoreRequest) : Step s (s.serve q) := by
  unfold serve
  split
  case h_1 ok => exact answer_step ok
  case h_2 => exact .plain .same

/-- What holds of a store and is kept by every step holds after every run. -/
theorem run_induction {P : Store → Prop} {s : Store} (start : P s)
    (step : ∀ s s', P s → Step s s' → P s') (qs : List StoreRequest) : P (s.run qs) := by
  induction qs generalizing s with
  | nil => exact start
  | cons q qs ih => exact ih (step s _ start (serve_step s q))

/-! ### Growth -/

/-- One store comes from another by growing: nodes are appended, and the edges of an operation stay
as they are. -/
structure Grows (s s' : Store) : Prop where
  nodes : s.nodes <+: s'.nodes
  fixed : ∀ {id : NodeId} {o : Operation}, s.operationAt id = some o →
    s'.succs id = s.succs id ∧ s'.preds id = s.preds id

namespace Grows

variable {s s' s'' : Store} {id : NodeId}

theorem node? (grows : s.Grows s') {n : Node} (known : s.node? id = some n) :
    s'.node? id = some n := by
  rw [node?_eq] at known ⊢
  split at known
  case isTrue pos =>
    obtain ⟨bound, at_id⟩ := List.getElem?_eq_some_iff.1 known
    rw [if_pos pos, List.prefix_iff_getElem?.1 grows.nodes _ bound, at_id]
  case isFalse => cases known

theorem isSome (grows : s.Grows s') (known : (s.node? id).isSome) : (s'.node? id).isSome := by
  obtain ⟨n, at_id⟩ := Option.isSome_iff_exists.1 known
  rw [grows.node? at_id]
  rfl

theorem isOperand (grows : s.Grows s') (plain : s.isOperand id) : s'.isOperand id := by
  obtain ⟨n, at_id, plain⟩ := isOperand_iff.1 plain
  exact isOperand_of_node? (grows.node? at_id) plain

theorem operationAt (grows : s.Grows s') {o : Operation} (there : s.operationAt id = some o) :
    s'.operationAt id = some o := by
  obtain ⟨n, at_id, isOp⟩ := operationAt_eq_some_iff.1 there
  exact operationAt_eq_some_iff.2 ⟨n, grows.node? at_id, isOp⟩

theorem refl (s : Store) : s.Grows s := ⟨List.prefix_refl _, fun _ => ⟨rfl, rfl⟩⟩

theorem trans (first : s.Grows s') (second : s'.Grows s'') : s.Grows s'' := by
  refine ⟨first.nodes.trans second.nodes, fun there => ?_⟩
  have old := first.fixed there
  have new := second.fixed (first.operationAt there)
  exact ⟨new.1.trans old.1, new.2.trans old.2⟩

theorem push (s : Store) (b : Node.Body) : s.Grows (s.push b) := by
  refine ⟨?_, fun _ => ⟨succs_push s b _, preds_push s b _⟩⟩
  rw [nodes_push]
  exact List.prefix_append _ _

end Grows

/-! ### Operands that fit -/

section Operated

variable {s : Store} {o : Operation} {i : Operands} (fits : s.Fits o.kind.signature i)

include fits

theorem Fits.operandEnds {op : NodeId} {e : Edge} (new : e ∈ operandEdges op o i) :
    s.isOperand e.src ∧ e.dst = op := by
  obtain ⟨r, inLayout, rfl⟩ := mem_operandEdges_iff.1 new
  exact ⟨fits.filled r inLayout, rfl⟩

theorem Fits.resultEnds {op : NodeId} {e : Edge} (new : e ∈ resultEdges op o i) :
    e.src = op ∧ s.isOperand e.dst := by
  obtain ⟨given, rfl⟩ := mem_resultEdges_iff.1 new
  exact ⟨rfl, fits.result given⟩

/-- One end of every edge of a new operation is the operation, the other is a plain node. -/
theorem Fits.ends {op : NodeId} {e : Edge} (new : e ∈ operandEdges op o i ++ resultEdges op o i) :
    (s.isOperand e.src ∧ e.dst = op) ∨ (e.src = op ∧ s.isOperand e.dst) :=
  (List.mem_append.1 new).imp fits.operandEnds fits.resultEnds

/-- Operands that fit are ends for the edges of the new operation. -/
theorem Fits.hasEnds {e : Edge}
    (new : e ∈ operandEdges s.nextId o i ++ resultEdges s.nextId o i) :
    (s.push (.operation o)).HasEnds e := by
  have self : ((s.push (.operation o)).node? s.nextId).isSome := by rw [node?_push_nextId]; rfl
  have known {id : NodeId} (plain : s.isOperand id) : ((s.push (.operation o)).node? id).isSome :=
    (Grows.push s (.operation o)).isSome (isSome_of_isOperand plain)
  rcases fits.ends new with ⟨src, dst⟩ | ⟨src, dst⟩
  · exact ⟨known src, dst ▸ self⟩
  · exact ⟨src ▸ self, known dst⟩

/-- A new operation adds its operand edges where its operands are. -/
theorem succs_operated (id : NodeId) :
    ((s.push (.operation o)).linkOperands s.nextId o i).succs id = s.succs id ++
      (operandEdges s.nextId o i ++ resultEdges s.nextId o i).filter (·.src = id) := by
  rw [linkOperands_eq, succs_linkAll (fun _ new => fits.hasEnds new), succs_push]

theorem preds_operated (id : NodeId) :
    ((s.push (.operation o)).linkOperands s.nextId o i).preds id = s.preds id ++
      (operandEdges s.nextId o i ++ resultEdges s.nextId o i).filter (·.dst = id) := by
  rw [linkOperands_eq, preds_linkAll (fun _ new => fits.hasEnds new), preds_push]

/-- The edges of a new operation are its operands and its result, and no others. -/
theorem edges_of_operated :
    ((s.push (.operation o)).linkOperands s.nextId o i).succs s.nextId = resultEdges s.nextId o i ∧
    ((s.push (.operation o)).linkOperands s.nextId o i).preds s.nextId =
      operandEdges s.nextId o i := by
  have noSuccs : s.succs s.nextId = [] := by simp [succs]
  have noPreds : s.preds s.nextId = [] := by simp [preds]
  have old {id : NodeId} (plain : s.isOperand id) : id ≠ s.nextId :=
    nextId_ne_of_isSome (isSome_of_isOperand plain)
  constructor
  · rw [succs_operated fits, noSuccs, List.filter_append]
    rw [List.filter_eq_nil_iff.2 (by simpa using fun e new => old (fits.operandEnds new).1)]
    simpa using fun e new => (fits.resultEnds new).1
  · rw [preds_operated fits, noPreds, List.filter_append]
    rw [(List.filter_eq_nil_iff (l := resultEdges s.nextId o i)).2
      (by simpa using fun e new => old (fits.resultEnds new).2)]
    simpa using fun e new => (fits.operandEnds new).2

end Operated

theorem Grows.joined {s : Store} {e : Edge} (src : s.isOperand e.src) (dst : s.isOperand e.dst) :
    s.Grows (s.link e) := by
  have ends : s.HasEnds e := ⟨isSome_of_isOperand src, isSome_of_isOperand dst⟩
  refine ⟨(nodes_link s e).symm ▸ List.prefix_refl _, fun {id o} there => ?_⟩
  have notSrc : id ≠ e.src := by
    rintro rfl
    rw [operationAt_of_isOperand src] at there
    cases there
  have notDst : id ≠ e.dst := by
    rintro rfl
    rw [operationAt_of_isOperand dst] at there
    cases there
  exact ⟨by rw [succs_link ends, if_neg notSrc], by rw [preds_link ends, if_neg notDst]⟩

theorem Grows.operated {s : Store} {o : Operation} {i : Operands}
    (fits : s.Fits o.kind.signature i) :
    s.Grows ((s.push (.operation o)).linkOperands s.nextId o i) := by
  have nodes : s.nodes <+: ((s.push (.operation o)).linkOperands s.nextId o i).nodes := by
    rw [nodes_operated]
    exact List.prefix_append _ _
  refine ⟨nodes, fun {id o'} there => ?_⟩
  -- An older operation is neither the new one nor among its operands.
  have notNew : s.nextId ≠ id := (nextId_ne_of_isSome (isSome_of_operationAt there)).symm
  have notOperand {x : NodeId} (plain : s.isOperand x) : x ≠ id := by
    rintro rfl
    rw [operationAt_of_isOperand plain] at there
    cases there
  have apart : ∀ e ∈ operandEdges s.nextId o i ++ resultEdges s.nextId o i,
      e.src ≠ id ∧ e.dst ≠ id := by
    intro e new
    rcases fits.ends new with ⟨src, dst⟩ | ⟨src, dst⟩
    · exact ⟨notOperand src, dst ▸ notNew⟩
    · exact ⟨src ▸ notNew, notOperand dst⟩
  rw [succs_operated fits, preds_operated fits]
  rw [List.filter_eq_nil_iff.2 (by simpa using fun e new => (apart e new).1),
    List.filter_eq_nil_iff.2 (by simpa using fun e new => (apart e new).2)]
  exact ⟨List.append_nil _, List.append_nil _⟩

theorem PlainStep.grows {s s' : Store} (step : PlainStep s s') : s.Grows s' := by
  cases step with
  | same => exact .refl s
  | named e fresh => exact ⟨(Grows.push s _).nodes, (Grows.push s _).fixed⟩
  | madeUp => exact .push s _
  | joined e src dst fresh => exact .joined src dst
  | rooted => exact ⟨List.prefix_refl _, fun _ => ⟨rfl, rfl⟩⟩
  | collected => exact ⟨List.prefix_refl _, fun _ => ⟨rfl, rfl⟩⟩

/-- Every step grows the store. -/
theorem Step.grows {s s' : Store} (step : Step s s') : s.Grows s' := by
  cases step with
  | plain step => exact step.grows
  | operated o i fits => exact .operated fits

theorem run_grows (s : Store) (qs : List StoreRequest) : s.Grows (s.run qs) :=
  run_induction (P := s.Grows) (.refl s) (fun _ _ grown step => grown.trans step.grows) qs

end Store

end WidgetFlow
