import WidgetFlow.Proofs.Graph.Flow
import WidgetFlow.Proofs.Graph.Replies

/-!
# Requests check by check

A request is a row of checks and writes: it looks things up, makes a node, enters a name, links one
edge after the other, sets a binding. A `Transaction` is a request at this grain. What it has written
stays written when a later check fails, so a request that checked too late would leave half of its
work behind. None does: each comes to the answer that the store gives to the request as a whole, and
one that is refused ends with the store it began with (`perform_run`).

When references and edges are refused is said exactly in `refusal_exact`.
-/

namespace WidgetFlow

/-- A request under way: it reads and writes a store until it is answered or refused. -/
abbrev Transaction := EStateM Fault Store

namespace Transaction

/-! ### Checks and writes -/

/-- Ends the request if there is a fault to report. -/
def check (fault? : Store → Option Fault) : Transaction Unit := do
  match fault? (← get) with
  | some f => throw f
  | none => return

/-- Makes a node without edges. -/
def newNode (b : Node.Body) : Transaction NodeId := modifyGet fun s => (s.nextId, s.push b)

/-- The node of an entity; on first use the node is made, and then its name is entered. -/
def name (e : Entity) : Transaction NodeId := do
  match (← get).lookup? e.key with
  | some id => return id
  | none =>
    let id ← newNode (.entity e)
    modify fun s => { s with keys := (e.key, id) :: s.keys }
    return id

/-- Names what a reference was read as. -/
def resolve (what detail : String) : Option Entity → Transaction NodeId
  | some e => name e
  | none => throw (.unresolved what detail)

def internLocal (l : Local) : Transaction NodeId :=
  resolve "variable" l.describe (Entity.ofLocal? l)

def internAlloc (a : AllocSite) : Transaction NodeId :=
  resolve "allocation" a.describe (Entity.ofAlloc? a)

def internField (f : FieldRef) : Transaction NodeId :=
  resolve "field" f.describe (Entity.ofField? f)

def internConstant (c : ConstantRef) : Transaction NodeId :=
  resolve "constant" c.describe (Entity.ofConstant? c)

def internResource (r : ResourceId) : Transaction NodeId :=
  resolve "resource" r.describe (Entity.ofResource? r)

def internWindow (w : WindowRef) : Transaction NodeId :=
  resolve "window" w.describe (Entity.ofWindow? w)

/-- The node of a reference: the reference is checked as a whole, and then read by its kind. -/
def intern (r : Ref) : Transaction NodeId := do
  check fun _ => if r.isValid then none else some (.unresolved r.kind.name r.describe)
  match r.kind with
  | .slot => internLocal r.slot
  | .allocation => internAlloc r.alloc
  | .field => internField r.field
  | .constant => internConstant r.constant
  | .resource => internResource r.resource
  | .window => internWindow r.window
  | .null => name .null
  | .operation | .other _ => throw (.unresolved r.kind.name r.describe)

def link (e : Edge) : Transaction Unit := modify (·.link e)

/-- The fault of an edge without an end. -/
def missingEnd? (src dst : NodeId) (s : Store) : Option Fault :=
  if (s.node? src).isSome ∧ (s.node? dst).isSome then none else some (.unknownEdge src dst)

/-- The fault of an edge that ends in an operation. -/
def fixedEnd? (id : NodeId) (s : Store) : Option Fault :=
  (s.operationAt id).map (Store.edgesFixed id)

def addEdge (src dst : NodeId) (site : Site) : Transaction Bool := do
  check (missingEnd? src dst)
  [src, dst].forM fun id => check (fixedEnd? id)
  if ⟨src, dst, site⟩ ∈ (← get).edges then return false
  else
    link ⟨src, dst, site⟩
    return true

/-- The fault of an operand for a role that the kind does not declare. -/
def undeclared? (kind : OpKind) (i : Operands) (role : Role) : Option Fault :=
  if i.get role ≠ 0 && !kind.signature.has role then
    some (.contract 0 kind.name role.name .undeclaredOperand)
  else none

/-- The fault of a role of the layout that is not filled. -/
def unfilled? (kind : OpKind) (i : Operands) (role : Role) (s : Store) : Option Fault :=
  (s.operandBreach? i role).map (.contract 0 kind.name role.name)

/-- The fault of a result that is no operand. -/
def badResult? (kind : OpKind) (i : Operands) (s : Store) : Option Fault :=
  if i.result ≠ 0 && !s.isOperand i.result then
    some (.contract 0 kind.name Role.result.name .invalidResult)
  else none

/-- The checks come first; then the node is made, and the operands and the result are linked. -/
def createOperation (r : OperationRequest) : Transaction NodeId := do
  match OpKind.ofName? r.kind with
  | none => throw (.unknownKind r.kind)
  | some kind =>
    [Role.receiver, .parameter, .result].forM fun role =>
      check fun _ => undeclared? kind r.operands role
    kind.signature.layout.forM fun role => check (unfilled? kind r.operands role)
    check (badResult? kind r.operands)
    let op ← newNode (.operation (r.operation kind))
    kind.signature.layout.forM fun role => link ⟨r.operands.get role, op, r.site⟩
    if r.operands.result ≠ 0 then link ⟨op, r.operands.result, r.site⟩
    return op

/-- The fault that a check reports. -/
def fault? (checked : Except Fault Unit) : Option Fault :=
  match checked with
  | .error f => some f
  | .ok _ => none

def bindWindowRoot (window root : NodeId) : Transaction Unit := do
  check fun s => fault? (s.checkWindow window)
  check fun s => fault? (s.checkFlowEnd ("bind window " ++ toString window ++ ": root") root)
  modify fun s => { s with roots := Store.assign window root s.roots }

def addWindowRoot (window producer : NodeId) : Transaction Unit := do
  check fun s => fault? (s.checkWindow window)
  check fun s => fault? (s.checkFlowEnd ("window " ++ toString window ++ " root: producer") producer)
  let known := (← get).producersOf window
  unless producer ∈ known do
    modify fun s => { s with producers := Store.assign window (known ++ [producer]) s.producers }

/-- A request, check by check and write by write. -/
def perform : StoreRequest → Transaction Reply
  | .intern r => .node <$> intern r
  | .internLocal l => .node <$> internLocal l
  | .internAlloc a => .node <$> internAlloc a
  | .internField f => .node <$> internField f
  | .internConstant c => .node <$> internConstant c
  | .internResource r => .node <$> internResource r
  | .internWindow w => .node <$> internWindow w
  | .internNull => .node <$> name .null
  | .newAllocation c k => do
    let serial := (← get).stats.synthetic + 1
    .node <$> newNode (.synthetic serial c k)
  | .addEdge src dst site => .joined <$> addEdge src dst site
  | .createOperation r => .node <$> createOperation r
  | .bindWindowRoot w root => (fun _ => .done) <$> bindWindowRoot w root
  | .addWindowRoot w p => (fun _ => .done) <$> addWindowRoot w p

/-! ### What a transaction comes to -/

/-- How a transaction ends that is answered as given, or refused before it has written anything. -/
def settle {α : Type} (s : Store) : Except Fault (α × Store) → EStateM.Result Fault Store α
  | .ok (a, s') => .ok a s'
  | .error f => .error f s

variable {s : Store}

theorem settle_eq_error_iff {α : Type} {x : Except Fault (α × Store)} {f : Fault} {s' : Store} :
    settle s x = .error f s' ↔ x = .error f ∧ s' = s := by
  cases x <;> simp [settle, eq_comm]

theorem settle_eq_ok_iff {α : Type} {x : Except Fault (α × Store)} {a : α} {s' : Store} :
    settle s x = .ok a s' ↔ x = .ok (a, s') := by
  cases x <;> simp [settle, Prod.ext_iff]

theorem map_settle {α β : Type} (g : α → β) {t : Transaction α} {x : Except Fault (α × Store)}
    (run : t.run s = settle s x) : (g <$> t).run s = settle s (x.map (Prod.map g id)) := by
  show EStateM.map g t s = _
  unfold EStateM.map
  rw [show t s = _ from run]
  cases x <;> rfl

theorem bind_ok {α β : Type} {t : Transaction α} {k : α → Transaction β} {a : α} {s' : Store}
    (run : t.run s = .ok a s') : (t >>= k).run s = (k a).run s' := by
  show EStateM.bind t k s = _
  unfold EStateM.bind
  rw [show t s = _ from run]
  rfl

theorem bind_error {α β : Type} {t : Transaction α} {k : α → Transaction β} {f : Fault} {s' : Store}
    (run : t.run s = .error f s') : (t >>= k).run s = .error f s' := by
  show EStateM.bind t k s = _
  unfold EStateM.bind
  rw [show t s = _ from run]

theorem get_bind {α : Type} (k : Store → Transaction α) : (get >>= k).run s = (k s).run s := rfl

/-- A check that finds a fault ends the request with the store as it is; otherwise it goes on. -/
theorem check_bind {α : Type} (fault? : Store → Option Fault) (k : Unit → Transaction α) :
    (check fault? >>= k).run s =
      match fault? s with
      | some f => .error f s
      | none => (k ()).run s := by
  cases found : fault? s with
  | some f => exact bind_error (by simp [check, found])
  | none => exact bind_ok (by simp [check, found])

/-- Checks made in turn report the first fault. -/
theorem checks_bind {α β : Type} (l : List β) (fault? : β → Store → Option Fault)
    (k : Unit → Transaction α) :
    ((l.forM fun b => check (fault? b)) >>= k).run s =
      match l.findSome? fun b => fault? b s with
      | some f => .error f s
      | none => (k ()).run s := by
  induction l with
  | nil => rfl
  | cons b l ih =>
    have first : (b :: l).forM (fun b => check (fault? b)) =
        check (fault? b) >>= fun _ => l.forM fun b => check (fault? b) := rfl
    rw [first, bind_assoc, check_bind, List.findSome?_cons]
    cases fault? b s with
    | some f => rfl
    | none => exact ih

theorem links_run {α : Type} (l : List α) (edge : α → Edge) :
    (l.forM fun a => link (edge a)).run s = .ok () (l.foldl (fun s a => s.link (edge a)) s) := by
  induction l generalizing s with
  | nil => rfl
  | cons a l ih => exact ih (s := s.link (edge a))

/-! ### Each request -/

theorem name_run (e : Entity) : (name e).run s = settle s (.ok (s.internEntity e)) := by
  unfold name Store.internEntity
  rw [get_bind]
  cases s.lookup? e.key <;> rfl

theorem resolve_run (what detail : String) (e? : Option Entity) :
    (resolve what detail e?).run s = settle s (s.internOr what detail e?) := by
  cases e? with
  | none => rfl
  | some e => exact name_run e

theorem intern_run (r : Ref) : (intern r).run s = settle s (s.intern r) := by
  unfold intern Store.intern
  rw [check_bind]
  cases r.isValid with
  | false => rfl
  | true =>
    simp only [if_true]
    cases r.kind with
    | null => exact name_run .null
    | operation => rfl
    | other => rfl
    | _ => exact resolve_run ..

theorem addEdge_run (src dst : NodeId) (site : Site) :
    (addEdge src dst site).run s = settle s (s.addEdge src dst site) := by
  unfold addEdge Store.addEdge
  rw [check_bind]
  unfold missingEnd?
  cases atSrc : s.node? src with
  | none => simp [settle]
  | some a =>
    cases atDst : s.node? dst with
    | none => simp [settle]
    | some b =>
      simp only [Option.isSome_some, and_self, if_true, checks_bind]
      unfold fixedEnd? Store.operationAt
      simp only [List.findSome?_cons, List.findSome?_nil, atSrc, atDst, Option.bind_some]
      cases a.operation? with
      | some o => rfl
      | none =>
        cases b.operation? with
        | some o => rfl
        | none =>
          simp only [Option.map_none]
          rw [get_bind]
          split <;> rfl

/-- The fault of a breach of the contract of a kind. -/
def breached (kind : OpKind) (breach : Role × Breach) : Fault :=
  .contract 0 kind.name breach.1.name breach.2

theorem findSome?_undeclared? (kind : OpKind) (i : Operands) (roles : List Role) :
    roles.findSome? (undeclared? kind i) =
      (roles.find? fun r => i.get r ≠ 0 && !kind.signature.has r).map fun r =>
        breached kind (r, .undeclaredOperand) := by
  rw [← List.findSome?_guard, List.map_findSome?]
  congr 1
  funext role
  simp only [undeclared?, Function.comp_apply, Option.guard]
  split <;> rfl

theorem findSome?_unfilled? (kind : OpKind) (i : Operands) (roles : List Role) :
    (roles.findSome? fun r => unfilled? kind i r s) =
      (roles.findSome? fun r => (s.operandBreach? i r).map (r, ·)).map (breached kind) := by
  rw [List.map_findSome?]
  congr 1
  funext role
  simp only [unfilled?, Function.comp_apply, Option.map_map]
  rfl

theorem createOperation_run (r : OperationRequest) :
    (createOperation r).run s = settle s (s.createOperation r) := by
  unfold createOperation Store.createOperation
  cases OpKind.ofName? r.kind with
  | none => rfl
  | some kind =>
    have sig : (r.operation kind).kind.signature = kind.signature := rfl
    simp only [Store.createKnown, Store.operandsBreach?, sig]
    rw [checks_bind, findSome?_undeclared?]
    cases [Role.receiver, .parameter, .result].find? fun role =>
        r.operands.get role ≠ 0 && !kind.signature.has role with
    | some role => rfl
    | none =>
      simp only [Option.map_none]
      rw [checks_bind, findSome?_unfilled?]
      cases kind.signature.layout.findSome? fun role =>
          (s.operandBreach? r.operands role).map (role, ·) with
      | some breach => rfl
      | none =>
        simp only [Option.map_none]
        rw [check_bind]
        unfold badResult?
        cases r.operands.result ≠ 0 && !s.isOperand r.operands.result with
        | true => rfl
        | false =>
          have made : (newNode (.operation (r.operation kind))).run s =
            .ok s.nextId (s.push (.operation (r.operation kind))) := rfl
          simp only [Bool.false_eq_true, if_false]
          rw [bind_ok made, bind_ok (links_run _ _)]
          unfold Store.linkOperands
          split <;> rfl

theorem bindWindowRoot_run (window root : NodeId) : (bindWindowRoot window root).run s =
    settle s ((s.bindWindowRoot window root).map ((), ·)) := by
  unfold bindWindowRoot Store.bindWindowRoot
  rw [check_bind]
  cases s.checkWindow window with
  | error f => rfl
  | ok =>
    simp only [fault?]
    rw [check_bind]
    cases s.checkFlowEnd ("bind window " ++ toString window ++ ": root") root <;> rfl

theorem addWindowRoot_run (window producer : NodeId) : (addWindowRoot window producer).run s =
    settle s ((s.addWindowRoot window producer).map ((), ·)) := by
  unfold addWindowRoot Store.addWindowRoot
  rw [check_bind]
  cases s.checkWindow window with
  | error f => rfl
  | ok =>
    simp only [fault?]
    rw [check_bind]
    cases s.checkFlowEnd ("window " ++ toString window ++ " root: producer") producer with
    | error f => rfl
    | ok =>
      refine (get_bind _).trans ?_
      by_cases known : producer ∈ s.producersOf window
      · simp only [known]
        rfl
      · simp only [known]
        rfl

/-- A request that is refused ends with the store it began with; one that is granted ends as
answered. -/
theorem perform_run (q : StoreRequest) : (perform q).run s = settle s (s.reply q) := by
  have done (x : Except Fault Store) :
      settle s ((x.map ((), ·)).map (Prod.map (fun _ => Reply.done) id)) =
        settle s (x.map (Reply.done, ·)) := by
    cases x <;> rfl
  cases q with
  | internNull => exact map_settle Reply.node (name_run .null)
  | newAllocation => rfl
  | intern r => exact map_settle Reply.node (intern_run r)
  | addEdge src dst site => exact map_settle Reply.joined (addEdge_run src dst site)
  | createOperation r => exact map_settle Reply.node (createOperation_run r)
  | bindWindowRoot w root => exact (map_settle _ (bindWindowRoot_run w root)).trans (done _)
  | addWindowRoot w p => exact (map_settle _ (addWindowRoot_run w p)).trans (done _)
  | _ => exact map_settle Reply.node (resolve_run ..)

end Transaction

namespace Store

variable {s s' : Store}

/-! ### References and edges that are refused -/

theorem intern_refused_iff {r : Ref} : (∃ f, s.intern r = .error f) ↔
    r.isValid = false ∨ (r.kind = .window ∧ r.window.kind.object? = none) := by
  rw [intern_eq, ← Ref.entity?_eq_none_iff]
  cases r.entity? <;> simp

theorem unresolved_of_intern {r : Ref} {f : Fault} (refused : s.intern r = .error f) :
    ∃ what detail, f = .unresolved what detail := by
  rw [intern_eq] at refused
  split at refused
  case h_1 => cases refused
  case h_2 =>
    cases refused
    exact r.refusal_unresolved

theorem not_isOperand_iff {id : NodeId} :
    ¬ s.isOperand id ↔ s.node? id = none ∨ (s.operationAt id).isSome := by
  unfold isOperand operationAt
  cases s.node? id <;> simp [Node.isOperation, Option.isSome_iff_ne_none]

/-- An edge is refused if one of its ends does not exist or is an operation. -/
theorem addEdge_refused_iff {src dst : NodeId} {site : Site} :
    (∃ f, s.addEdge src dst site = .error f) ↔ ¬ s.isOperand src ∨ ¬ s.isOperand dst := by
  rw [← Decidable.not_and_iff_not_or_not]
  constructor
  · rintro ⟨f, refused⟩ ⟨plainSrc, plainDst⟩
    have granted := addEdge_of_plain (e := ⟨src, dst, site⟩) plainSrc plainDst
    rw [refused] at granted
    cases granted
  · intro bad
    cases answer : s.addEdge src dst site with
    | error f => exact ⟨f, rfl⟩
    | ok p =>
      obtain ⟨plainSrc, plainDst, -⟩ := addEdge_eq_ok_iff.1 answer
      exact absurd ⟨plainSrc, plainDst⟩ bad

/-- The store `s'` has one edge more than `s`, at the end of the lists of its two nodes, and all else
that `s` has. -/
structure Adds (s : Store) (e : Edge) (s' : Store) : Prop where
  nodes : s'.nodes = s.nodes
  succs : ∀ id, s'.succs id = if id = e.src then s.succs id ++ [e] else s.succs id
  preds : ∀ id, s'.preds id = if id = e.dst then s.preds id ++ [e] else s.preds id
  edges : s'.edges = e :: s.edges
  stats : s'.stats = { s.stats with edges := s.stats.edges + 1 }
  keys : s'.keys = s.keys
  roots : s'.roots = s.roots
  producers : s'.producers = s.producers

theorem adds_link {e : Edge} (ends : s.HasEnds e) : s.Adds e (s.link e) where
  nodes := nodes_link s e
  succs := succs_link ends
  preds := preds_link ends
  edges := rfl
  stats := rfl
  keys := rfl
  roots := rfl
  producers := rfl

/-- What a granted edge is answered, and what it does. -/
theorem addEdge_granted (wf : s.WellFormed) {src dst : NodeId} {site : Site} {added : Bool}
    (granted : s.addEdge src dst site = .ok (added, s')) :
    (added = true ↔ ⟨src, dst, site⟩ ∉ s.succs src) ∧
      if added then s.Adds ⟨src, dst, site⟩ s' else s' = s := by
  obtain ⟨plainSrc, plainDst, new, rfl⟩ := addEdge_eq_ok_iff.1 granted
  have ends : s.HasEnds ⟨src, dst, site⟩ :=
    ⟨isSome_of_isOperand plainSrc, isSome_of_isOperand plainDst⟩
  refine ⟨new.trans (not_congr wf.mem_edges_iff), ?_⟩
  split
  case isTrue fresh =>
    rw [if_neg (new.1 fresh)]
    exact adds_link ends
  case isFalse known => exact if_pos (Decidable.not_not.1 fun fresh => known (new.2 fresh))

/-- A refused request leaves the whole store as it was, although its checks are made one by one and
what is written stays; and when a reference or an edge is refused is said exactly. A reference is refused
exactly if it is invalid or names a window of an unknown kind, always as unresolved; an edge, exactly
if one of its ends does not exist or is an operation, and otherwise it is added unless it is there. -/
theorem refusal_exact (qs : List StoreRequest) :
    let s := empty.run qs
    (∀ q f s', (Transaction.perform q).run s = .error f s' → s' = s ∧ s.reply q = .error f) ∧
    (∀ q a s', (Transaction.perform q).run s = .ok a s' → s.reply q = .ok (a, s')) ∧
    (∀ r, (∃ f, s.intern r = .error f) ↔
      r.isValid = false ∨ (r.kind = .window ∧ r.window.kind.object? = none)) ∧
    (∀ r f, s.intern r = .error f → ∃ what detail, f = .unresolved what detail) ∧
    (∀ src dst site, (∃ f, s.addEdge src dst site = .error f) ↔
      ∃ id ∈ [src, dst], s.node? id = none ∨ (s.operationAt id).isSome) ∧
    ∀ src dst site added s', s.addEdge src dst site = .ok (added, s') →
      (added = true ↔ ⟨src, dst, site⟩ ∉ s.succs src) ∧
        if added then s.Adds ⟨src, dst, site⟩ s' else s' = s := by
  intro s
  have wf : s.WellFormed := wellFormed_run qs
  refine ⟨fun q f s' refused => ?_, fun q a s' granted => ?_, fun r => intern_refused_iff,
    fun r f => unresolved_of_intern, fun src dst site => ?_,
    fun src dst site added s' => addEdge_granted wf⟩
  · rw [Transaction.perform_run, Transaction.settle_eq_error_iff] at refused
    exact refused.symm
  · rwa [Transaction.perform_run, Transaction.settle_eq_ok_iff] at granted
  · rw [addEdge_refused_iff, not_isOperand_iff, not_isOperand_iff]
    simp

/-- The last check of a new operation fails, and nothing is left of it; an edge to a node that does not
exist is refused, and one between two slots is added. -/
theorem refusal_exact_result :
    let qs : List StoreRequest := [.internLocal ⟨"m", "a"⟩, .internLocal ⟨"m", "b"⟩]
    let s := empty.run qs
    let q : StoreRequest := .createOperation { kind := "find-view", operands := ⟨1, 2, 3⟩ }
    (∃ f s', (Transaction.perform q).run s = .error f s' ∧ s' = s) ∧
      (∃ f, s.addEdge 1 3 {} = .error f) ∧
      ∃ s', s.addEdge 1 2 {} = .ok (true, s') ∧ s.Adds ⟨1, 2, {}⟩ s' := by
  intro qs s q
  obtain ⟨atomic, -, -, -, refused, granted⟩ := refusal_exact qs
  have fails : (Transaction.perform q).run s =
    .error (.contract 0 "find-view" "result" .invalidResult) s := rfl
  refine ⟨⟨_, _, fails, (atomic q _ _ fails).1⟩, ?_, ?_⟩
  · exact (refused 1 3 {}).2 ⟨3, by simp, .inl rfl⟩
  · have added : s.addEdge 1 2 {} = .ok (true, s.link ⟨1, 2, {}⟩) := rfl
    exact ⟨_, added, (granted _ _ _ _ _ added).2⟩

end Store

end WidgetFlow
