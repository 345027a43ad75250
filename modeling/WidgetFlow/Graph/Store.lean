import WidgetFlow.Graph.Node

/-!
# The store of the flow graph

The store makes a node for every entity the first time it is named and owns all edges. Nothing is
ever removed: nodes are numbered in order of creation, edge lists grow at the end, and an entity
keeps its node. A refused request leaves the store as it was, which the types say: every request
answers either a fault or a new store.
-/

namespace WidgetFlow

/-- A node with its outgoing and incoming edges, oldest first. -/
structure Entry where
  node : Node
  succs : List Edge := []
  preds : List Edge := []
  deriving DecidableEq, Inhabited

/-- The size of a graph. -/
structure GraphStats where
  nodes : Nat := 0
  edges : Nat := 0
  operations : Nat := 0
  windows : Nat := 0
  synthetic : Nat := 0
  deriving DecidableEq, Inhabited

/-- The flow graph under construction. -/
structure Store where
  /-- The nodes in order of their numbers. -/
  entries : List Entry := []
  /-- The node of every entity named so far. -/
  keys : List (Entity.Key × NodeId) := []
  /-- Every edge, newest first. -/
  edges : List Edge := []
  stats : GraphStats := {}
  /-- The node that each window's bound views flow into. -/
  roots : List (NodeId × NodeId) := []
  /-- The root views recorded for each window, oldest first. -/
  producers : List (NodeId × List NodeId) := []
  deriving DecidableEq, Inhabited

namespace Store

/-- The store with no nodes. -/
def empty : Store := {}

/-- How many nodes there are. -/
def size (s : Store) : Nat := s.entries.length

/-- The entry of a node. -/
def entry? (s : Store) (id : NodeId) : Option Entry :=
  if 0 < id then s.entries[id.toNat - 1]? else none

/-- The node with a number. -/
def node? (s : Store) (id : NodeId) : Option Node := (s.entry? id).map (·.node)

/-- The nodes in order of their numbers. -/
def nodes (s : Store) : List Node := s.entries.map (·.node)

/-- The window nodes. -/
def windows (s : Store) : List Node := s.nodes.filter (·.isWindow)

/-- The operation nodes. -/
def operations (s : Store) : List Node := s.nodes.filter (·.isOperation)

/-- The allocation and window nodes. -/
def objects (s : Store) : List Node := s.nodes.filter (·.isObject)

/-- The outgoing edges of a node, oldest first. -/
def succs (s : Store) (id : NodeId) : List Edge :=
  match s.entry? id with
  | some e => e.succs
  | none => []

/-- The incoming edges of a node, oldest first. -/
def preds (s : Store) (id : NodeId) : List Edge :=
  match s.entry? id with
  | some e => e.preds
  | none => []

/-- The edges from one node to another. -/
def edgesBetween (s : Store) (src dst : NodeId) : List Edge :=
  (s.succs src).filter (·.dst = dst)

/-- A short description of the node with a number, known or not. -/
def label (s : Store) (id : NodeId) : String :=
  match s.node? id with
  | some n => n.label
  | none => "?" ++ toString id

/-- The node of an entity, if it has been named before. -/
def lookup? (s : Store) (k : Entity.Key) : Option NodeId := s.keys.lookup k

/-! ### Nodes -/

/-- The counts after one more node. -/
def GraphStats.addNode (t : GraphStats) (n : Node) : GraphStats :=
  { t with
    nodes := t.nodes + 1
    operations := if n.isOperation then t.operations + 1 else t.operations
    windows := if n.isWindow then t.windows + 1 else t.windows
    synthetic := if n.isSynthetic then t.synthetic + 1 else t.synthetic }

/-- The number the next node will get. -/
def nextId (s : Store) : NodeId := (s.size : Int) + 1

/-- Appends a node without edges. -/
def push (s : Store) (b : Node.Body) : Store :=
  let n : Node := ⟨s.nextId, b⟩
  { s with entries := s.entries ++ [{ node := n }], stats := GraphStats.addNode s.stats n }

/-- Names an entity that has no node yet. -/
def register (s : Store) (e : Entity) : Store :=
  { s.push (.entity e) with keys := (e.key, s.nextId) :: s.keys }

/-- The node of an entity, made on first use. The first use fixes what the node says of it. -/
def internEntity (s : Store) (e : Entity) : NodeId × Store :=
  match s.lookup? e.key with
  | some id => (id, s)
  | none => (s.nextId, s.register e)

/-- Interns what a reference was read as, or reports it as unresolved. -/
def internOr (s : Store) (what detail : String) (e? : Option Entity) :
    Except Fault (NodeId × Store) :=
  match e? with
  | some e => .ok (s.internEntity e)
  | none => .error (.unresolved what detail)

/-- The node of a value slot. -/
def internLocal (s : Store) (l : Local) : Except Fault (NodeId × Store) :=
  s.internOr "variable" l.describe (Entity.ofLocal? l)

/-- The node of an allocation. -/
def internAlloc (s : Store) (a : AllocSite) : Except Fault (NodeId × Store) :=
  s.internOr "allocation" a.describe (Entity.ofAlloc? a)

/-- The node of a field. -/
def internField (s : Store) (f : FieldRef) : Except Fault (NodeId × Store) :=
  s.internOr "field" f.describe (Entity.ofField? f)

/-- The node of a literal value. -/
def internConstant (s : Store) (c : ConstantRef) : Except Fault (NodeId × Store) :=
  s.internOr "constant" c.describe (Entity.ofConstant? c)

/-- The node of a resource id. -/
def internResource (s : Store) (r : ResourceId) : Except Fault (NodeId × Store) :=
  s.internOr "resource" r.describe (Entity.ofResource? r)

/-- The node of a window. -/
def internWindow (s : Store) (w : WindowRef) : Except Fault (NodeId × Store) :=
  s.internOr "window" w.describe (Entity.ofWindow? w)

/-- The one node of the null value. -/
def internNull (s : Store) : NodeId × Store := s.internEntity .null

/-- The node of a reference: the reference must be valid, and a window of a known kind. -/
def intern (s : Store) (r : Ref) : Except Fault (NodeId × Store) :=
  if r.isValid then
    match r.kind with
    | .slot => s.internLocal r.slot
    | .allocation => s.internAlloc r.alloc
    | .field => s.internField r.field
    | .constant => s.internConstant r.constant
    | .resource => s.internResource r.resource
    | .window => s.internWindow r.window
    | .null => .ok s.internNull
    | .operation | .other _ => .error (.unresolved r.kind.name r.describe)
  else .error (.unresolved r.kind.name r.describe)

/-- Makes up an object that no reference can name. -/
def newAllocation (s : Store) (className : String) (kind : ObjectKind) : NodeId × Store :=
  (s.nextId, s.push (.synthetic (s.stats.synthetic + 1) className kind))

/-! ### Edges -/

/-- Changes the entry of a node. -/
def modifyEntry (s : Store) (id : NodeId) (f : Entry → Entry) : Store :=
  { s with entries := s.entries.modify (id.toNat - 1) f }

/-- Appends an edge at both of its ends. -/
def link (s : Store) (e : Edge) : Store :=
  let s := s.modifyEntry e.src fun x => { x with succs := x.succs ++ [e] }
  let s := s.modifyEntry e.dst fun x => { x with preds := x.preds ++ [e] }
  { s with edges := e :: s.edges, stats := { s.stats with edges := s.stats.edges + 1 } }

/-- The breach of trying to join an operation by a plain edge. -/
def edgesFixed (id : NodeId) (o : Operation) : Fault :=
  .contract id o.kind.name "" .edgesFixed

/-- Records a flow. An edge that is already there is not added again, which the answer tells. The
edges of an operation are its operands and cannot be extended. -/
def addEdge (s : Store) (src dst : NodeId) (site : Site) : Except Fault (Bool × Store) :=
  match s.node? src, s.node? dst with
  | some a, some b =>
    match a.operation?, b.operation? with
    | some o, _ => .error (edgesFixed src o)
    | none, some o => .error (edgesFixed dst o)
    | none, none =>
      if ⟨src, dst, site⟩ ∈ s.edges then .ok (false, s) else .ok (true, s.link ⟨src, dst, site⟩)
  | _, _ => .error (.unknownEdge src dst)

end Store

end WidgetFlow
