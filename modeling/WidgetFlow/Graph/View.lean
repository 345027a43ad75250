import WidgetFlow.Graph.Store
import WidgetFlow.Search

/-!
# The directed graph of a store

The store keeps parallel edges apart by their sites. Seen as a plain directed graph, it has the
distinct neighbours of a node in the order of their first edges.
-/

namespace WidgetFlow

namespace Store

/-- The nodes that a node flows into directly. -/
def targets (s : Store) (id : NodeId) : List NodeId := distinct ((s.succs id).map (·.dst))

/-- The nodes that flow into a node directly. -/
def sources (s : Store) (id : NodeId) : List NodeId := distinct ((s.preds id).map (·.src))

/-- Some edge leads from one node to the other. -/
def hasEdge (s : Store) (src dst : NodeId) : Bool := (s.succs src).any (·.dst = dst)

/-- The one edge that stands for all edges from one node to the other, given by its ends. -/
def edge? (s : Store) (src dst : NodeId) : Option (NodeId × NodeId) :=
  if s.hasEdge src dst then some (src, dst) else none

/-- Some edge joins the two nodes, in either direction. -/
def isJoined (s : Store) (a b : NodeId) : Bool := s.hasEdge a b || s.hasEdge b a

end Store

end WidgetFlow
