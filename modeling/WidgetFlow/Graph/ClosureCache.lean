import WidgetFlow.Graph.Closure

/-!
# Remembered closures

While the graph does not grow, a forward closure is computed once and remembered. The cache counts
the questions it could answer from memory.
-/

namespace WidgetFlow

/-- The forward closures computed so far, and how often one was asked for again. -/
structure ClosureCache where
  sets : List (NodeId × NodeSet) := []
  hits : Nat := 0
  deriving DecidableEq, Inhabited

namespace ClosureCache

/-- How many closures are remembered. -/
def size (c : ClosureCache) : Nat := c.sets.length

/-- The remembered closure of a node. -/
def find? (c : ClosureCache) (id : NodeId) : Option NodeSet := c.sets.lookup id

/-- Remembers a closure unless one is remembered already. -/
def insert (c : ClosureCache) (id : NodeId) (set : NodeSet) : ClosureCache :=
  match c.find? id with
  | some _ => c
  | none => { c with sets := (id, set) :: c.sets }

/-- The forward closure of a node, from memory if it is there. -/
def reachable (c : ClosureCache) (s : Store) (id : NodeId) : NodeSet × ClosureCache :=
  match c.find? id with
  | some set => (set, { c with hits := c.hits + 1 })
  | none => (s.reachable id, c.insert id (s.reachable id))

/-- The cache after the closures of all `ids` have been asked for. -/
def fill (c : ClosureCache) (s : Store) (ids : List NodeId) : ClosureCache :=
  ids.foldl (fun c id => (c.reachable s id).2) c

end ClosureCache

end WidgetFlow
