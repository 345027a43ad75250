import WidgetFlow.Component
import WidgetFlow.Graph.NodeSet
import WidgetFlow.Graph.View

/-!
# Recursive flows

A recursive flow is a set of at least two nodes that all flow into each other: a strongly connected
component of the graph. A node that only flows into itself is not one.
-/

namespace WidgetFlow

/-- Nodes that all flow into each other, in ascending order, with their labels. -/
structure RecursiveFlow where
  nodes : List NodeId
  labels : List String
  deriving DecidableEq, Inhabited

namespace Store

/-- The components of two or more nodes that a search with at most `depth` nested visits finds, each in
ascending order, by their smallest node. -/
def componentsWithin (s : Store) (depth : Nat) : List (List NodeId) :=
  ((DepthFirst.search s.targets depth (s.nodes.map (·.id))).map fun c =>
    (NodeSet.ofList c).ids).mergeSort fun c d => c.headD 0 ≤ d.headD 0

/-- The components of two or more nodes, by their smallest node. A visit is nested in visits to other
nodes only, so there are no more of them than nodes. -/
def components (s : Store) : List (List NodeId) := s.componentsWithin s.size

/-- The recursive flows of the graph. -/
def recursiveFlows (s : Store) : List RecursiveFlow :=
  s.components.map fun c => ⟨c, c.map s.label⟩

end Store

end WidgetFlow
