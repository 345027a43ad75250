import WidgetFlow.Graph.Store

/-!
# Operations and their operands

An operation node is created together with the edges of its operands: one incoming edge for each
role of the layout, in layout order, and one outgoing edge if it has a result. The edges never
change afterwards, so an operand is read off by its slot.
-/

namespace WidgetFlow

/-- The nodes supplied for the roles of a new operation; zero means none. -/
structure Operands where
  receiver : NodeId := 0
  parameter : NodeId := 0
  result : NodeId := 0
  deriving DecidableEq, Inhabited

/-- The node supplied for a role. -/
def Operands.get (i : Operands) : Role → NodeId
  | .receiver => i.receiver
  | .parameter => i.parameter
  | .result => i.result
  | .other _ => 0

/-- A request for a new operation; the kind is still a word. -/
structure OperationRequest where
  kind : String
  operands : Operands := {}
  site : Site := {}
  artificial : Bool := false
  listener : String := ""
  contextMenu : Bool := false
  deriving DecidableEq, Inhabited

/-- The operation a request describes, once its kind is known. -/
def OperationRequest.operation (r : OperationRequest) (kind : OpKind) : Operation :=
  { kind, site := r.site, artificial := r.artificial, listener := r.listener,
    contextMenu := r.contextMenu }

namespace Store

/-- A node may be the operand of an operation if it exists and is no operation itself. -/
def isOperand (s : Store) (id : NodeId) : Bool :=
  match s.node? id with
  | some n => !n.isOperation
  | none => false

/-- What is wrong with the operand of one layout role. -/
def operandBreach? (s : Store) (i : Operands) (role : Role) : Option Breach :=
  match s.node? (i.get role) with
  | none => some .missingOperand
  | some n => if n.isOperation then some .operandIsOperation else none

/-- The first breach of the contract of a kind, with its role: operands for roles it does not
declare, then layout roles that are not filled properly, then the result. -/
def operandsBreach? (s : Store) (sig : Signature) (i : Operands) : Option (Role × Breach) :=
  match [Role.receiver, .parameter, .result].find? fun r => i.get r ≠ 0 && !sig.has r with
  | some r => some (r, .undeclaredOperand)
  | none =>
    match sig.layout.findSome? fun r => (s.operandBreach? i r).map (r, ·) with
    | some b => some b
    | none =>
      if i.result ≠ 0 && !s.isOperand i.result then some (.result, .invalidResult) else none

/-- Links the operands of the operation `op` in layout order, then its result. -/
def linkOperands (s : Store) (op : NodeId) (o : Operation) (i : Operands) : Store :=
  let s := o.kind.signature.layout.foldl (fun s r => s.link ⟨i.get r, op, o.site⟩) s
  if i.result ≠ 0 then s.link ⟨op, i.result, o.site⟩ else s

/-- Creates an operation of a known kind with its operands. -/
def createKnown (s : Store) (o : Operation) (i : Operands) : Except Fault (NodeId × Store) :=
  match s.operandsBreach? o.kind.signature i with
  | some (role, breach) => .error (.contract 0 o.kind.name role.name breach)
  | none => .ok (s.nextId, (s.push (.operation o)).linkOperands s.nextId o i)

/-- Creates a requested operation. -/
def createOperation (s : Store) (r : OperationRequest) : Except Fault (NodeId × Store) :=
  match OpKind.ofName? r.kind with
  | none => .error (.unknownKind r.kind)
  | some kind => s.createKnown (r.operation kind) r.operands

/-- The node in a role of an operation: zero for a result that was not supplied. -/
def operand (s : Store) (op : NodeId) (role : Role) : Except Fault NodeId :=
  match s.entry? op with
  | none => .error (.contract op "" role.name .notAnOperation)
  | some e =>
    match e.node.operation? with
    | none => .error (.contract op "" role.name .notAnOperation)
    | some o =>
      match o.kind.signature.slot? role with
      | none => .error (.contract op o.kind.name role.name .undeclaredRole)
      | some slot =>
        if role = .result then .ok ((e.succs.head?.map (·.dst)).getD 0)
        else match e.preds[slot]? with
          | some edge => .ok edge.src
          | none => .error (.contract op o.kind.name role.name .missingOperandEdge)

end Store

end WidgetFlow
