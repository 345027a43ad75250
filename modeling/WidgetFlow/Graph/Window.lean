import WidgetFlow.Graph.Store

/-!
# View bindings of windows

A window may declare the node that its bound views flow into, its root, and collect the root views
that will flow there. Both must be nodes that a plain edge may join. A window's collected views
count only once it has a root.
-/

namespace WidgetFlow

/-- The view binding of one window. -/
structure WindowBinding where
  window : NodeId
  root : NodeId
  producers : List NodeId
  deriving DecidableEq, Inhabited

namespace Store

/-- Refuses a node that is not a window. -/
def checkWindow (s : Store) (id : NodeId) : Except Fault Unit :=
  match s.node? id with
  | some n => if n.isWindow then .ok () else .error (.notWindow id)
  | none => .error (.notWindow id)

/-- Refuses a node that no plain edge can join; `what` says what it was meant to be. -/
def checkFlowEnd (s : Store) (what : String) (id : NodeId) : Except Fault Unit :=
  match s.node? id with
  | none => .error (.unknownEnd what id)
  | some n =>
    match n.operation? with
    | some o => .error (.contract id o.kind.name "" (.endIsOperation what))
    | none => .ok ()

/-- The root views recorded for a window. -/
def producersOf (s : Store) (window : NodeId) : List NodeId :=
  (s.producers.lookup window).getD []

/-- Sets the value of a key in an association list. -/
def assign {β : Type} (k : NodeId) (v : β) : List (NodeId × β) → List (NodeId × β)
  | [] => [(k, v)]
  | (k', v') :: rest => if k' = k then (k, v) :: rest else (k', v') :: assign k v rest

/-- Declares the node that a window's bound views flow into. -/
def bindWindowRoot (s : Store) (window root : NodeId) : Except Fault Store := do
  s.checkWindow window
  s.checkFlowEnd ("bind window " ++ toString window ++ ": root") root
  return { s with roots := assign window root s.roots }

/-- Records a root view of a window; one that is recorded already is not recorded again. -/
def addWindowRoot (s : Store) (window producer : NodeId) : Except Fault Store := do
  s.checkWindow window
  s.checkFlowEnd ("window " ++ toString window ++ " root: producer") producer
  let known := s.producersOf window
  if producer ∈ known then return s
  else return { s with producers := assign window (known ++ [producer]) s.producers }

/-- The windows with a root, in order of their numbers, with what is recorded for them. -/
def windowBindings (s : Store) : List WindowBinding :=
  (s.roots.map fun (w, r) => ⟨w, r, s.producersOf w⟩).mergeSort (·.window ≤ ·.window)

end Store

end WidgetFlow
