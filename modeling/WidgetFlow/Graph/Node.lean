import WidgetFlow.Fault
import WidgetFlow.Operation
import WidgetFlow.Program.Ref

/-!
# Nodes and edges of the flow graph

A node stands for an entity of the program, for an object made up during the analysis (the menu
handed to one handler, say), or for a framework operation. An edge says that a value flows from
one node to another; it may carry the site that causes the flow.
-/

namespace WidgetFlow

/-- The description of an operation node. -/
structure Operation where
  kind : OpKind
  site : Site := {}
  /-- Models framework behaviour rather than a call in the application. -/
  artificial : Bool := false
  /-- The listener interface that the operation registers, if it registers one. -/
  listener : String := ""
  /-- Registers a handler of context menus. -/
  contextMenu : Bool := false
  deriving DecidableEq, Inhabited

/-- What a node stands for. -/
inductive Node.Body where
  | entity (e : Entity)
  | synthetic (serial : Nat) (className : String) (kind : ObjectKind)
  | operation (o : Operation)
  deriving DecidableEq, Inhabited

/-- A node: its number and what it stands for. -/
structure Node where
  id : NodeId
  body : Node.Body
  deriving DecidableEq, Inhabited

/-- A flow from one node to another. -/
structure Edge where
  src : NodeId
  dst : NodeId
  site : Site := {}
  deriving DecidableEq, Inhabited

/-- The allocation that a made-up object is shown as. -/
def syntheticSite (serial : Nat) (className : String) (kind : ObjectKind) : AllocSite :=
  ⟨"synthetic#" ++ toString serial, className, kind⟩

namespace Node

/-- What kind of thing a node stands for. -/
def kind (n : Node) : NodeKind :=
  match n.body with
  | .entity (.slot _) => .slot
  | .entity (.allocation _) => .allocation
  | .entity (.field _) => .field
  | .entity (.constant _) => .constant
  | .entity (.resource _) => .resource
  | .entity (.window _) => .window
  | .entity .null => .null
  | .synthetic .. => .allocation
  | .operation _ => .operation

/-- The operation of an operation node. -/
def operation? (n : Node) : Option Operation :=
  match n.body with
  | .operation o => some o
  | _ => none

/-- The node is an operation. -/
def isOperation (n : Node) : Bool := n.operation?.isSome

/-- The node is a window. -/
def isWindow (n : Node) : Bool := n.kind == .window

/-- The node is an allocation or a window. -/
def isObject (n : Node) : Bool := n.kind.isObject

/-- The node was made up by the analysis. -/
def isSynthetic (n : Node) : Bool :=
  match n.body with
  | .synthetic .. => true
  | _ => false

/-- The object kind of an allocation or a window. -/
def object? (n : Node) : Option ObjectKind :=
  match n.body with
  | .entity (.allocation a) => some a.kind
  | .entity (.window w) => w.kind.object?
  | .synthetic _ _ k => some k
  | _ => none

/-- The class of an allocation or a window; other nodes have none. -/
def className (n : Node) : String :=
  match n.body with
  | .entity (.allocation a) => a.className
  | .entity (.window w) => w.className
  | .synthetic _ c _ => c
  | _ => ""

/-- The node has the object kind `k`. -/
def hasObject (n : Node) (k : ObjectKind) : Bool := n.object? == some k

end Node

/-- A short description of an entity. -/
def Entity.label : Entity → String
  | slot l => l.method ++ "/" ++ l.name
  | allocation a => "new " ++ a.className ++ "@" ++ a.expr
  | field f => f.className ++ "." ++ f.name
  | constant (.string s) => Text.quoted s
  | constant (.int v) | constant (.long v) => toString v
  | resource r => "R." ++ r.kind ++ "[" ++ toString r.value ++ "]"
  | window w =>
    if w.site = "" then w.kind.name ++ "[" ++ w.className ++ "]"
    else w.kind.name ++ "[" ++ w.className ++ "@" ++ w.site ++ "]"
  | null => "null"

/-- A short description of a node. -/
def Node.label (n : Node) : String :=
  match n.body with
  | .entity e => e.label
  | .synthetic i c k => (Entity.allocation (syntheticSite i c k)).label
  | .operation o => o.kind.name ++ "#" ++ toString n.id ++ "@" ++ o.site.text

end WidgetFlow
